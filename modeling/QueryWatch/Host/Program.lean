import QueryWatch.Text.Utf8

/-!
Programs as functions: what a program is started with, and what it does. A host is what programs
there are.
-/

set_option autoImplicit false

namespace QueryWatch

open Text (Bytes)

/-- What a program is started with. -/
structure Launch where
  program : String
  args : List String
  environment : List (String × String)
  input : Bytes
  deriving DecidableEq, Repr

/-- How a program ended. -/
inductive ExitStatus
  | code (n : Nat)
  | signal (n : Nat)
  deriving DecidableEq, Repr

/-- What a program did: how it ended, what it wrote, and how many nanoseconds it took. -/
structure ProgramRun where
  status : ExitStatus
  output : Bytes
  errors : Bytes
  nanos : Nat
  deriving DecidableEq, Repr

/-- Why a program could not be started. -/
inductive LaunchError
  | notFound
  | notPermitted
  | nulByte
  deriving DecidableEq, Repr

def LaunchError.message : LaunchError → String
  | notFound => "No such file or directory (os error 2)"
  | notPermitted => "Permission denied (os error 13)"
  | nulByte => "nul byte found in provided data"

/-- What comes of starting programs. -/
abbrev Host := Launch → Except LaunchError ProgramRun

namespace ExitStatus

def success : ExitStatus := code 0

/-- The names of signals, from the first one on. -/
def signalNames : List String :=
  ["HUP", "INT", "QUIT", "ILL", "TRAP", "ABRT", "BUS", "FPE", "KILL", "USR1", "SEGV", "USR2",
    "PIPE", "ALRM", "TERM", "STKFLT", "CHLD", "CONT", "STOP", "TSTP", "TTIN", "TTOU", "URG",
    "XCPU", "XFSZ", "VTALRM", "PROF", "WINCH", "IO", "PWR", "SYS"]

/-- The status in words. -/
def text : ExitStatus → String
  | code n => "exit status: " ++ toString n
  | signal n =>
    "signal: " ++ toString n ++ match signalNames[n - 1]? with
      | some name => " (SIG" ++ name ++ ")"
      | none => ""

end ExitStatus
end QueryWatch
