import QueryWatch.Feed.Lines
import QueryWatch.Json.Reader
import QueryWatch.Operator.Client

/-!
Sending telemetry line by line. Every line that says something is either sent or reported; a line
that is refused does not stop those after it, but losing the daemon does.
-/

set_option autoImplicit false

namespace QueryWatch

open Text (Bytes)

/-- How many lines were taken and how many were not. -/
structure SendTally where
  accepted : Nat := 0
  rejected : Nat := 0
  deriving DecidableEq, Repr

namespace SendTally

def accept (s : SendTally) : SendTally := { s with accepted := s.accepted + 1 }

def reject (s : SendTally) : SendTally := { s with rejected := s.rejected + 1 }

def text (s : SendTally) : String :=
  "sent " ++ toString (s.accepted + s.rejected) ++ " events (" ++ toString s.rejected ++
    " rejected)"

end SendTally

namespace Sending

/-- Why a line was not taken. -/
inductive Complaint
  | notJson (error : Json.ReadError)
  | refused (error : ErrorReport)
  deriving DecidableEq, Repr

/-- A complaint about the line of a number. -/
def Complaint.text (number : Nat) (c : Complaint) : String :=
  "line " ++ toString number ++ ": " ++ match c with
    | notJson error => "not JSON: " ++ error.message
    | refused error => error.code ++ ": " ++ error.message

/-- The text of a line, or why it cannot be read: it has to be well-formed UTF-8. -/
def readLine (line : Bytes) : Except String String :=
  match Text.Utf8.decode? line with
  | some text => .ok text
  | none => .error "stream did not contain valid UTF-8"

/-- The lines of an input, as far as they can be read. -/
def linesOf (input : Bytes) : List (Except String String) :=
  let (done, rest) := ({} : LineReader).read input
  (done ++ [rest.unfinished.reverse]).map readLine

/-- What came of sending lines: the summary or what stopped it, the complaints by line, and the
state after it. -/
structure Outcome (σ : Type) where
  summary : Except CallError SendTally
  complaints : List (Nat × Complaint)
  state : σ

/-- Adds a complaint in front of those about later lines. -/
def Outcome.complain {σ : Type} (r : Outcome σ) (number : Nat) (c : Complaint) : Outcome σ :=
  { r with complaints := (number, c) :: r.complaints }

/-- Sends lines, of which the first has a number, when `sum` counts those before it. -/
def sendFrom {σ : Type} (send : σ → Json → Except CallError Json × σ) (number : Nat)
    (sum : SendTally) (s : σ) : List (Except String String) → Outcome σ
  | [] => ⟨.ok sum, [], s⟩
  | .error cause :: _ => ⟨.error (.read cause), [], s⟩
  | .ok line :: rest =>
    let text := Text.trim line
    if text = "" then sendFrom send (number + 1) sum s rest
    else
      match Json.ofText text with
      | .error e => (sendFrom send (number + 1) sum.reject s rest).complain number (.notJson e)
      | .ok event =>
        match send s event with
        | (.ok _, s) => sendFrom send (number + 1) sum.accept s rest
        | (.error (.daemon error), s) =>
          (sendFrom send (number + 1) sum.reject s rest).complain number (.refused error)
        | (.error e, s) => ⟨.error e, [], s⟩

/-- Sends lines. -/
def sendAll {σ : Type} (send : σ → Json → Except CallError Json × σ) (s : σ)
    (lines : List (Except String String)) : Outcome σ :=
  sendFrom send 1 {} s lines

end Sending
end QueryWatch
