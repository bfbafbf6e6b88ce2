import QueryWatch.Json.Stop
import QueryWatch.Telemetry.Event

/-!
Why a message is not an event, and errors as the daemon reports them: a code that programs can rely
on, and a text for people.
-/

set_option autoImplicit false

namespace QueryWatch

/-- An error as it crosses a boundary. -/
structure ErrorReport where
  code : String
  message : String
  deriving DecidableEq, Repr

/-- An error on one line. -/
def ErrorReport.text (e : ErrorReport) : String := e.code ++ ": " ++ e.message

/-- The kinds of tagged events. -/
inductive EventKind
  | sessionState
  | queryIssued
  | queryResult
  deriving DecidableEq, Repr

def EventKind.name : EventKind → String
  | sessionState => "session_state"
  | queryIssued => "query_issued"
  | queryResult => "query_result"

/-- The forms of messages that the proxy sends without a kind. -/
inductive WireForm
  | query
  | result
  | state
  deriving DecidableEq, Repr

def WireForm.name : WireForm → String
  | query => "query"
  | result => "result"
  | state => "state"

/-- Why a message is not an event. -/
inductive Refusal
  | notJson (error : Json.ReadError)
  | notObject
  | unknownKind (kind : String)
  | formless
  | malformedTagged (kind : EventKind) (mismatch : Json.Mismatch)
  | malformedWire (form : WireForm) (mismatch : Json.Mismatch)
  | stateByte (byte : UInt8)
  | durationText (text : String)
  | durationRange
  | connectionMissing
  | queryMissing
  deriving DecidableEq, Repr

/-- The classes of refusals. -/
inductive RefusalClass
  | invalidEvent
  | unknownEventKind
  | invalidField
  deriving DecidableEq, Repr

def RefusalClass.code : RefusalClass → String
  | invalidEvent => "invalid_event"
  | unknownEventKind => "unknown_event_kind"
  | invalidField => "invalid_field"

namespace Refusal

/-- The class of a refusal: the message is of no event's form, or of an unknown kind, or a field
has a value that no event can have. -/
def cls : Refusal → RefusalClass
  | notJson _ => .invalidEvent
  | notObject => .invalidEvent
  | unknownKind _ => .unknownEventKind
  | formless => .unknownEventKind
  | malformedTagged _ _ => .invalidEvent
  | malformedWire _ _ => .invalidEvent
  | stateByte _ => .invalidField
  | durationText _ => .invalidField
  | durationRange => .invalidField
  | connectionMissing => .invalidField
  | queryMissing => .invalidField

/-- The two digits of a byte in base 16. -/
def byteDigits (b : UInt8) : String :=
  String.ofList [Nat.digitChar (b.toNat / 16), Nat.digitChar (b.toNat % 16)]

def message : Refusal → String
  | notJson error => "event was not valid JSON: " ++ error.message
  | notObject => "event must be a JSON object"
  | unknownKind kind => "unknown event kind '" ++ kind ++ "'"
  | formless => "event has neither a kind nor a Query/Result/State field"
  | malformedTagged kind mismatch => "malformed " ++ kind.name ++ " event: " ++ mismatch.message
  | malformedWire form mismatch =>
    "malformed proxy " ++ form.name ++ " message: " ++ mismatch.message
  | stateByte byte => "unknown session state byte 0x" ++ byteDigits byte
  | durationText text => "duration '" ++ text ++ "' is not a number of seconds"
  | durationRange => "duration must be a non-negative number of seconds"
  | connectionMissing => "connection_id is required"
  | queryMissing => "query_text is required"

/-- A refusal as it is reported. -/
def report (r : Refusal) : ErrorReport := ⟨r.cls.code, r.message⟩

end Refusal

/-- Checks that an event names its connection and, for a query, has a text. -/
def Event.validate (e : Event) : Except Refusal Unit :=
  if Text.isBlankText e.connection then .error .connectionMissing
  else
    match e with
    | .issued query => if Text.isBlankText query.text then .error .queryMissing else .ok ()
    | _ => .ok ()

end QueryWatch
