import QueryWatch.Host.Disk
import QueryWatch.Operator.Answer
import QueryWatch.Operator.Arguments
import QueryWatch.Operator.Sending
import QueryWatch.Settings.Location
import QueryWatch.Version

/-!
The operator's program: it reads its arguments, asks the daemon, and prints what it is told or why
it was told nothing. Its logs are kept below the home directory, and it says so when they cannot be.
-/

set_option autoImplicit false

namespace QueryWatch

open Text (Bytes)

/-- What the program is started with. -/
structure Invocation where
  args : List Bytes
  input : Bytes := []
  home : Option String
  /-- The socket of the daemon, if one is named. -/
  socket : Option String

/-- What the program did. -/
structure Printout where
  code : Nat
  output : String := ""
  errors : String := ""
  deriving DecidableEq, Repr

namespace Operator

def programName : String := "sqltap"

/-- A line in which the program speaks of itself. -/
def remark (text : String) : String := programName ++ ": " ++ text ++ "\n"

/-- What help shows. -/
def helpText : String :=
  "Usage: " ++ programName ++ " <COMMAND>\n\nCommands:\n" ++
    String.join (Arguments.rules.map fun r ↦ "  " ++ r.name ++ "\n")

/-- The directory of the logs. -/
def logDirectory (home : String) : String := Path.join (programDirectory home) "logs"

/-- What is said when there can be no logs. -/
def logNotice (disk : Disk) (home : Option String) : String :=
  match home with
  | none => ""
  | some home =>
    let directory := logDirectory home
    match disk.directoryError? directory with
    | none => ""
    | some e =>
      remark ("logging disabled: failed to create directory \x60" ++ directory ++ "\x60: " ++
        e.message)

/-- The socket at which the daemon is asked. -/
def socketPath (i : Invocation) : Except CallError String :=
  match i.socket, i.home with
  | some path, _ => .ok path
  | none, some home => .ok (defaultSocketPath home)
  | none, none => .error .noHome

/-- Exchanges with the daemon whose socket the program finds. -/
def exchangeAt {σ : Type} (network : String → Exchange σ) (i : Invocation) : Exchange σ :=
  match socketPath i with
  | .error e => fun s _ ↦ (.error e, s)
  | .ok path => network path

/-- The end of a program that was stopped by an error, after it has said what is in `errors`. -/
def failed (errors : String) (e : CallError) : Printout := ⟨1, "", errors ++ remark e.message⟩

/-- Asks the daemon a question. -/
def ask {σ : Type} (exchange : Exchange σ) (id : String) (a : Ask) (s : σ) : Printout × σ :=
  match Client.call exchange s (a.request id) with
  | (.error e, s) => (failed "" e, s)
  | (.ok data, s) =>
    (match a.shown data with
      | .error e => failed "" e
      | .ok text => ⟨0, text, ""⟩, s)

/-- Sends the input to the daemon. -/
def send {σ : Type} (exchange : Exchange σ) (id : String) (input : Bytes) (s : σ) :
    Printout × σ :=
  let callEvent (s : σ) (event : Json) :=
    Client.call exchange s ⟨protocolVersion, .event, some id, some event⟩
  let r := Sending.sendAll callEvent s (Sending.linesOf input)
  let complaints := String.join (r.complaints.map fun (number, c) ↦ c.text number ++ "\n")
  (match r.summary with
    | .error e => failed complaints e
    | .ok summary => ⟨0, summary.text ++ "\n", complaints⟩, r.state)

/-- Carries out an order. -/
def carryOut {σ : Type} (exchange : Exchange σ) (id : String) (input : Bytes) (o : Order) (s : σ) :
    Printout × σ :=
  match o with
  | .ask a => ask exchange id a s
  | .send => send exchange id input s

/-- Runs the program, whose requests have an id, in a network of daemons at their sockets. -/
def run {σ : Type} (disk : Disk) (network : String → Exchange σ) (id : String) (i : Invocation)
    (s : σ) : Printout × σ :=
  let notice := logNotice disk i.home
  let (p, s) : Printout × σ := match Arguments.read i.args with
    | .version => (⟨0, programName ++ " " ++ version ++ "\n", ""⟩, s)
    | .help => (⟨0, helpText, ""⟩, s)
    | .wrong => (⟨2, "", helpText⟩, s)
    | .order o => carryOut (exchangeAt network i) id i.input o s
  ({ p with errors := notice ++ p.errors }, s)

end Operator
end QueryWatch
