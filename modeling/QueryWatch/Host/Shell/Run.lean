import QueryWatch.Host.Programs
import QueryWatch.Host.Shell.Script

/-!
Running scripts of the shell. A command writes to two outputs, which can be redirected to each other
or to nowhere; what it leaves of the input is there for the next one.
-/

set_option autoImplicit false

namespace QueryWatch.Shell

open Text (Bytes)
open Host (Effect bytes briefly)

/-- A shell that runs: the values of its variables, what is left of its input, what was written,
with what code the last command ended, and how the shell itself ended, if it has. -/
structure State where
  bindings : List (String × String)
  input : Bytes
  output : Bytes := []
  errors : Bytes := []
  code : Nat := 0
  ended : Option ExitStatus := none
  nanos : Nat := 0

/-- The number by which a shell is sent signals. -/
def ownId : String := "4242"

/-! ### Expanding words -/

def State.value? (s : State) (name : String) : Option String :=
  if name = "$" then some ownId
  else if name = "?" then some (toString s.code)
  else s.bindings.lookup name

/-- What a script in a word writes, and the shell after it ran. -/
abbrev Inner := State → String → Bytes × State

/-- The value of a piece, and whether it is to be cut into words. -/
def State.expand (s : State) : Piece → Bytes × Bool
  | .text inQuotes b => (b, !inQuotes)
  | .output _ _ => ([], false)
  | .parameter inQuotes name substitution =>
    let value := s.value? name
    let known (orEmpty : Bool) := !(value.isNone || (orEmpty && value = some ""))
    (bytes (match substitution with
      | .value => value.getD ""
      | .whenUnset orEmpty text => if known orEmpty then value.getD "" else text
      | .whenSet orEmpty text => if known orEmpty then text else ""), !inQuotes)

/-- Words made of values: a blank in a value that is to be cut ends a word. `word` is the word under
way, if there is one, latest byte first. -/
def fieldsOnto (done : List Bytes) (word : Option Bytes) : List (UInt8 × Bool) → List Bytes
  | [] => (match word with
    | some w => w.reverse :: done
    | none => done).reverse
  | (b, cut) :: rest =>
    if cut && (b == 32 || b == 9 || b == 10) then
      match word with
      | some w => fieldsOnto (w.reverse :: done) none rest
      | none => fieldsOnto done none rest
    else fieldsOnto done (some (b :: word.getD [])) rest

/-- Pieces with texts in place of scripts, which are run. -/
def State.settlePieces (inner : Inner) (s : State) : List Piece → List Piece × State
  | [] => ([], s)
  | .output inQuotes script :: rest =>
    let (output, s) := inner s script
    let (rest, s) := s.settlePieces inner rest
    let kept := (output.reverse.dropWhile (· == 10)).reverse
    (.text inQuotes kept :: rest, s)
  | piece :: rest =>
    let (rest, s) := s.settlePieces inner rest
    (piece :: rest, s)

/-- Words with texts in place of scripts, which are run. -/
def State.settle (inner : Inner) (s : State) : List Word → List Word × State
  | [] => ([], s)
  | w :: rest =>
    let (pieces, s) := s.settlePieces inner w.pieces
    let (rest, s) := s.settle inner rest
    ({ w with pieces } :: rest, s)

/-- The words a word stands for. -/
def State.fields (s : State) (w : Word) : List Bytes :=
  let marked := w.pieces.flatMap fun piece ↦
    let (value, cut) := s.expand piece
    value.map fun b ↦ (b, cut)
  fieldsOnto [] (if w.hasQuotes then some [] else none) marked

/-! ### Commands of the shell itself -/

/-- The value of up to three digits to the base eight, and what is left. -/
def octal (s : Bytes) : UInt8 × Bytes :=
  let digits := (s.take 3).takeWhile fun b ↦ 48 ≤ b && b ≤ 55
  ((digits.foldl (fun n (b : UInt8) ↦ 8 * n + (b.toNat - 48)) 0).toUInt8, s.drop digits.length)

/-- The byte for a letter behind a backslash. -/
def escapeByte? (b : UInt8) : Option UInt8 :=
  if b = 92 then some 92
  else if b = 97 then some 7
  else if b = 98 then some 8
  else if b = 102 then some 12
  else if b = 110 then some 10
  else if b = 114 then some 13
  else if b = 116 then some 9
  else if b = 118 then some 11
  else none

/-- A text with its escapes worked out, and whether one of them ends all output. In a format an
escape by number has up to three digits, in a value one more if the first is zero. -/
def unescapeOnto (inFormat : Bool) : (fuel : Nat) → (done : Bytes) → Bytes → Bytes × Bool
  | 0, done, _ => (done.reverse, false)
  | _ + 1, done, [] => (done.reverse, false)
  | fuel + 1, done, b :: rest =>
    if b ≠ 92 then unescapeOnto inFormat fuel (b :: done) rest
    else
      match rest with
      | [] => unescapeOnto inFormat fuel (92 :: done) []
      | c :: r =>
        if c = 99 && !inFormat then (done.reverse, true)
        else if c = 48 && !inFormat then
          let (value, r) := octal r
          unescapeOnto inFormat fuel (value :: done) r
        else if 48 ≤ c && c ≤ 55 then
          let (value, r) := octal (c :: r)
          unescapeOnto inFormat fuel (value :: done) r
        else
          match escapeByte? c with
          | some e => unescapeOnto inFormat fuel (e :: done) r
          | none => unescapeOnto inFormat fuel (92 :: done) (c :: r)

def unescape (inFormat : Bool) (b : Bytes) : Bytes × Bool :=
  unescapeOnto inFormat (2 * b.length + 2) [] b

def joined (words : List Bytes) : Bytes := [32].intercalate words

def echo (args : List Bytes) : Bytes :=
  let (silent, args) := match args with
    | [45, 110] :: rest => (true, rest)
    | args => (false, args)
  let (text, stopped) := unescape false (joined args)
  if silent || stopped then text else text ++ [10]

/-- One pass over a format: what it gives, the arguments that are left, and whether it took one. -/
def formatOnto : (fuel : Nat) → (done : Bytes) → List Bytes → Bool → Bytes →
    Bytes × List Bytes × Bool
  | 0, done, args, took, _ => (done.reverse, args, took)
  | _ + 1, done, args, took, [] => (done.reverse, args, took)
  | fuel + 1, done, args, took, b :: rest =>
    if b ≠ 37 then formatOnto fuel (b :: done) args took rest
    else
      match rest with
      | 37 :: r => formatOnto fuel (37 :: done) args took r
      | 98 :: r =>
        let value := (unescape false (args.head?.getD [])).1
        formatOnto fuel (value.reverse ++ done) args.tail true r
      | 99 :: r =>
        formatOnto fuel (((args.head?.getD []).take 1).reverse ++ done) args.tail true r
      | 100 :: r =>
        let value := args.head?.getD []
        let value := if value.isEmpty then [48] else value
        formatOnto fuel (value.reverse ++ done) args.tail true r
      | 115 :: r =>
        formatOnto fuel ((args.head?.getD []).reverse ++ done) args.tail true r
      | r => formatOnto fuel (37 :: done) args took r

/-- Passes over a format until no argument is left. -/
def printfOnto (format : Bytes) : (rounds : Nat) → List Bytes → Bytes
  | 0, _ => []
  | rounds + 1, args =>
    let (text, rest, took) := formatOnto (format.length + 1) [] args false format
    if took && !rest.isEmpty then text ++ printfOnto format rounds rest else text

def printf (args : List Bytes) : Effect :=
  match args with
  | [] => { errors := bytes "sh: 1: printf: usage: printf format [arg ...]\n", code := 2 }
  | format :: args => { output := printfOnto (unescape true format).1 (args.length + 1) args }

/-- The number of a signal that is given by its number or its name. -/
def signalNumber? (s : String) : Option Nat :=
  match s.toNat? with
  | some n => some n
  | none =>
    let name := if s.startsWith "SIG" then String.ofList (s.toList.drop 3) else s
    (ExitStatus.signalNames.findIdx? (· = name)).map (· + 1)

/-- What a signal is and to whom it is sent. -/
def killTarget (args : List String) : Option (Nat × List String) :=
  match args with
  | "-s" :: name :: ids => (signalNumber? name).map (·, ids)
  | first :: ids =>
    match first.toList with
    | '-' :: name => (signalNumber? (String.ofList name)).map (·, ids)
    | _ => some (15, first :: ids)
  | [] => none

/-- The signals that change nothing unless something is set up for them. -/
def ignoredSignals : List Nat := [0, 17, 18, 23, 28]

/-- The signals that stop a program without ending it. -/
def stoppingSignals : List Nat := [19, 20, 21, 22]

/-- The shell after it has sent a signal. -/
def State.kill (s : State) (args : List String) : State :=
  match killTarget args with
  | none => { s with code := 2, errors := s.errors ++ bytes "sh: 1: kill: Illegal number\n" }
  | some (signal, ids) =>
    if !ids.contains ownId then
      { s with code := 1, errors := s.errors ++ bytes "sh: 1: kill: No such process\n" }
    else if ignoredSignals.contains signal then { s with code := 0 }
    else if stoppingSignals.contains signal then { s with nanos := s.nanos + Nat.pow 10 30 }
    else { s with ended := some (.signal signal) }

/-! ### Commands -/

/-- Where what is written to an output goes. -/
inductive Sink
  | output
  | errors
  | nowhere
  deriving DecidableEq, Repr

/-- Where the two outputs of a command go, and whether it has the shell's input. -/
structure Streams where
  output : Sink := .output
  errors : Sink := .errors
  hasInput : Bool := true

/-- The streams after one more redirection, or a complaint about a file that is not there. -/
def State.redirect (s : State) (streams : Streams) (r : Redirect) : Except String Streams :=
  let set (sink : Sink) : Streams :=
    if r.descriptor = 2 then { streams with errors := sink }
    else if r.descriptor = 1 then { streams with output := sink }
    else streams
  match r.target with
  | .descriptor 1 => .ok (set streams.output)
  | .descriptor 2 => .ok (set streams.errors)
  | .descriptor _ => .ok streams
  | .file word =>
    let name := Text.Utf8.decodeLossy (s.fields word).flatten
    if name = "/dev/null" then
      .ok (if r.descriptor = 0 then { streams with hasInput := false } else set .nowhere)
    else if r.descriptor = 0 then .error ("cannot open " ++ name ++ ": No such file")
    else .error ("cannot create " ++ name ++ ": Permission denied")

def State.redirectAll (s : State) : Streams → List Redirect → Except String Streams
  | streams, [] => .ok streams
  | streams, r :: rest =>
    match s.redirect streams r with
    | .error complaint => .error complaint
    | .ok streams => s.redirectAll streams rest

/-- The shell after something was written. -/
def State.write (s : State) (sink : Sink) (b : Bytes) : State :=
  match sink with
  | .output => { s with output := s.output ++ b }
  | .errors => { s with errors := s.errors ++ b }
  | .nowhere => s

/-- The shell after a command has done something. -/
def State.after (s : State) (streams : Streams) (e : Effect) : State :=
  let s := (s.write streams.output e.output).write streams.errors e.errors
  { s with
    input := if streams.hasInput then e.unread else s.input
    code := e.code
    nanos := s.nanos + e.nanos }

/-- Whether a condition holds, or `none` if it cannot be read. -/
def holds? : List String → Option Bool
  | [] => some false
  | [a] => some (a ≠ "")
  | ["!", a] => some (a = "")
  | ["-n", a] => some (a ≠ "")
  | ["-z", a] => some (a = "")
  | [a, "=", b] => some (a = b)
  | [a, "!=", b] => some (a ≠ b)
  | [a, "-eq", b] => return (← a.toNat?) = (← b.toNat?)
  | [a, "-ne", b] => return (← a.toNat?) ≠ (← b.toNat?)
  | [a, "-lt", b] => return (← a.toNat?) < (← b.toNat?)
  | [a, "-gt", b] => return (← b.toNat?) < (← a.toNat?)
  | _ => none

/-- The effect of looking at a condition. -/
def condition (args : List String) : Effect :=
  match holds? args with
  | some true => {}
  | some false => { code := 1 }
  | none => { errors := bytes "sh: 1: test: unexpected operator\n", code := 2 }

/-- The name and value of an assignment. -/
def assignment? (word : Bytes) : Option (String × String) :=
  let name := word.takeWhile (· != 61)
  if name.length < word.length ∧ name ≠ [] then
    some (Text.Utf8.decodeLossy name, Text.Utf8.decodeLossy (word.drop (name.length + 1)))
  else none

/-- Runs a command of these words. -/
def State.runWords (s : State) (streams : Streams) : List Bytes → State
  | [] => { s with code := 0 }
  | first :: args =>
    let name := Text.Utf8.decodeLossy first
    let texts := args.map Text.Utf8.decodeLossy
    let quick (e : Effect) : State := s.after streams { e with unread := s.input, nanos := 0 }
    match name with
    | ":" => quick {}
    | "true" => quick {}
    | "false" => quick { code := 1 }
    | "echo" => quick { output := echo args }
    | "printf" => quick (printf args)
    | "test" => quick (condition texts)
    | "[" => quick (condition texts.dropLast)
    | "kill" => s.kill texts
    | "exit" =>
      match texts with
      | [] => { s with ended := some (.code s.code) }
      | number :: _ =>
        match number.toNat? with
        | some n => { s with code := n % 256, ended := some (.code (n % 256)) }
        | none =>
          { s with
            errors := s.errors ++ bytes ("sh: 1: exit: Illegal number: " ++ number ++ "\n")
            code := 2
            ended := some (.code 2) }
    | "exec" =>
      if args.isEmpty then s
      else
        let s := s.runWords streams args
        { s with ended := some (s.ended.getD (.code s.code)) }
    | _ =>
      match Host.program? name with
      | some program =>
        s.after streams (program texts (if streams.hasInput then s.input else []))
      | none =>
        match assignment? first, args with
        | some (name, value), [] =>
          { s with bindings := (name, value) :: s.bindings, code := 0 }
        | _, _ =>
          quick { errors := bytes ("sh: 1: " ++ name ++ ": not found\n"), code := 127 }

/-- Runs a command. -/
def State.runCommand (inner : Inner) (s : State) (c : SimpleCommand) : State :=
  let (words, s) := s.settle inner c.words
  match s.redirectAll {} c.redirects with
  | .error complaint =>
    { s with code := 2, errors := s.errors ++ bytes ("sh: 1: " ++ complaint ++ "\n") }
  | .ok streams => s.runWords streams (words.flatMap s.fields)

/-- The shell after one that ran for it: it goes on itself. -/
def State.outlived (s : State) : State :=
  match s.ended with
  | some (.code n) => { s with ended := none, code := n }
  | some (.signal n) => { s with ended := none, code := 128 + n }
  | none => s

/-- Runs commands each of which reads what the one before writes, in shells of their own. -/
def State.runChain (inner : Inner) (s : State) : List SimpleCommand → State
  | [] => s
  | [c] => (s.runCommand inner c).outlived
  | c :: rest =>
    let first := { s with output := [] }.runCommand inner c
    let second :=
      { s with input := first.output, errors := first.errors, nanos := first.nanos }
    { second.runChain inner rest with input := first.input }

/-- Runs the commands of a pipeline. -/
def State.runCommands (inner : Inner) (s : State) : List SimpleCommand → State
  | [c] => s.runCommand inner c
  | commands => s.runChain inner commands

/-- Runs the pipelines that are left, until the shell ends. -/
def State.run (inner : Inner) (s : State) : List Pipeline → State
  | [] => s
  | p :: rest =>
    if s.ended.isSome then s
    else
      let wanted := match p.link with
        | .always => true
        | .onSuccess => s.code = 0
        | .onFailure => s.code ≠ 0
      let commands := p.commands.filter fun c ↦ c ≠ ⟨[], []⟩
      (if wanted then s.runCommands inner commands else s).run inner rest

/-- Runs a script in which so many scripts can stand in each other's words. -/
def State.runScript : (depth : Nat) → State → String → State
  | 0, s, _ => s
  | depth + 1, s, script =>
    match parse script with
    | none =>
      { s with ended := some (.code 2), errors := s.errors ++ bytes "sh: 1: Syntax error\n" }
    | some pipelines =>
      let inner : Inner := fun s script ↦
        let after := runScript depth { s with output := [] } script
        (after.output, { after.outlived with output := s.output, bindings := s.bindings })
      s.run inner pipelines

/-- What a shell starts with beside its environment: its name and what else it is given. -/
def positional (names : List String) : List (String × String) :=
  let given := names.drop 1
  [("0", names.head?.getD "sh"), ("#", toString given.length), ("@", " ".intercalate given),
    ("*", " ".intercalate given)] ++
    (List.range given.length).zipWith (fun i value ↦ (toString (i + 1), value)) given

/-- Runs a script from its start. -/
def runFrom (script : String) (names : List String) (l : Launch) (input : Bytes) : ProgramRun :=
  let s := State.runScript (script.length + 1)
    { bindings := positional names ++ l.environment, input } script
  ⟨s.ended.getD (.code s.code), s.output, s.errors, s.nanos + briefly⟩

/-- Runs the shell: the script is given behind `-c`, or is the input. -/
def run (l : Launch) : ProgramRun :=
  match l.args with
  | "-c" :: script :: names => runFrom script names l l.input
  | ["-c"] => ⟨.code 2, [], bytes "sh: 0: -c requires an argument\n", briefly⟩
  | _ => runFrom (Text.Utf8.decodeLossy l.input) [] l []

end QueryWatch.Shell
