import QueryWatch.Host.Shell.Run

/-!
A small host: the shell, and a few programs beside it.
-/

set_option autoImplicit false

namespace QueryWatch.Host

/-- The directories in which programs are. -/
def directories : List String := ["/bin/", "/usr/bin/"]

/-- The name of a program that is given with or without its directory. -/
def programName (path : String) : String :=
  match directories.find? (·.toList.isPrefixOf path.toList) with
  | some directory => String.ofList (path.toList.drop directory.length)
  | none => path

/-- Whether a text has a NUL in it, so that it cannot be given to a program. -/
def hasNul (s : String) : Bool := s.toList.contains '\x00'

/-- Starts programs. -/
def small : Host := fun l ↦
  let texts := l.program :: l.args ++ l.environment.map Prod.snd
  if texts.any hasNul then .error .nulByte
  else
    let name := programName l.program
    if name = "sh" then .ok (Shell.run l)
    else
      match program? name with
      | some program =>
        let e := program l.args l.input
        .ok ⟨.code e.code, e.output, e.errors, e.nanos⟩
      | none =>
        if l.program = "/" ∨ l.program = "/dev/null" then .error .notPermitted
        else .error .notFound

end QueryWatch.Host
