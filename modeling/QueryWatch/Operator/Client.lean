import QueryWatch.Protocol.Request
import QueryWatch.Protocol.Response

/-!
How an operator's program talks to the daemon: one line is sent on a connection of its own, and one
line is read as the answer. A line whose connection could not be opened is sent once more.
-/

set_option autoImplicit false

namespace QueryWatch

open Text (Bytes)

/-- Why an operator got no answer. -/
inductive CallError
  | noHome
  | connect (path cause : String)
  | write (cause : String)
  | read (cause : String)
  | timeout
  | parse (cause : String)
  | daemon (error : ErrorReport)
  deriving DecidableEq, Repr

namespace CallError

def message : CallError → String
  | noHome => "Home directory not found"
  | connect path cause => "Failed to connect to daemon socket " ++ path ++ ": " ++ cause
  | write cause => "Failed to write request: " ++ cause
  | read cause => "Failed to read response: " ++ cause
  | timeout => "Timed out waiting for daemon response"
  | parse cause => "Failed to parse response JSON: " ++ cause
  | daemon error => error.code ++ ": " ++ error.message

/-- Whether no connection was opened. -/
def isUnreached : CallError → Bool
  | connect _ _ => true
  | _ => false

end CallError

/-- What comes of bytes that are sent to a daemon on a connection of their own: the bytes that come
back, or why there are none. The daemon is in another state afterwards. -/
abbrev Exchange (σ : Type) := σ → Bytes → Except CallError Bytes × σ

namespace Client

/-- How many bytes an answer may have, its newline among them. -/
def maxAnswerBytes : Nat := 16 * maxRequestBytes

/-- The error that stands for a refusal without one. -/
def unknownError : ErrorReport := ⟨"unknown", "Unknown daemon error"⟩

/-- The data of an answer; an answer without data has the data null. -/
def dataOf (r : Response) : Except CallError Json :=
  if r.ok then .ok (r.data.getD .null) else .error (.daemon (r.error.getD unknownError))

/-- The answer in the bytes that come back: what stands before the first newline. -/
def readAnswer (bytes : Bytes) : Except CallError Response :=
  let line := bytes.takeWhile (· != 10)
  if maxAnswerBytes < (bytes.take (line.length + 1)).length then
    .error (.read "response exceeded maximum size")
  else if line.isEmpty then .error (.read "daemon response was empty")
  else (Response.ofBytes line).mapError fun e ↦ .parse e.message

/-- Sends bytes, and once more if no connection was opened. -/
def sendTwice {σ : Type} (exchange : Exchange σ) (s : σ) (bytes : Bytes) :
    Except CallError Bytes × σ :=
  match exchange s bytes with
  | (.error e, s) => if e.isUnreached then exchange s bytes else (.error e, s)
  | (.ok reply, s) => (.ok reply, s)

/-- Sends a request; gives the data of its answer. -/
def call {σ : Type} (exchange : Exchange σ) (s : σ) (r : Request) : Except CallError Json × σ :=
  match sendTwice exchange s (Text.Utf8.encode r.line) with
  | (.error e, s) => (.error e, s)
  | (.ok reply, s) =>
    (match readAnswer reply with
      | .error e => .error e
      | .ok response => dataOf response, s)

/-- The text of a number to the base sixteen. -/
def hexText (n : Nat) : String := String.ofList (Nat.toDigits 16 n)

/-- The id of a request: when it is sent, by which process, and a number drawn for it. -/
def requestId (time processId drawn : Nat) : String :=
  "req-" ++ toString time ++ "-" ++ toString processId ++ "-" ++ hexText drawn

end Client
end QueryWatch
