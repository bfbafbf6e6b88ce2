import QueryWatch.Json.Form
import QueryWatch.Json.Writer
import QueryWatch.Protocol.Params

/-!
Requests to the daemon. A request is one record on one line, with a version of the protocol, a
method, an id that the answer repeats, and parameters.
-/

set_option autoImplicit false

namespace QueryWatch

open Text (Bytes)
open Json (Form Slot Mismatch)

/-- The version of the protocol that is spoken here. -/
def protocolVersion : Nat := 1

/-- How many bytes a request or a feed line may have. -/
def maxRequestBytes : Nat := 1024 * 1024

structure Request where
  version : Nat
  method : Method
  id : Option String
  params : Option Json
  deriving Repr, BEq

namespace Request

/-- What is known of a request while it is read. -/
structure Draft where
  version : Option Nat := none
  method : Option Method := none
  id : Option (Option String) := none
  params : Option (Option Json) := none

/-- The form of a request in a text shorter than `fuel`. -/
def form (fuel : Nat) : Form Draft where
  name := "Request"
  slots :=
    [.of "protocol_version" (·.version) (fun d x ↦ { d with version := some x })
        (Json.scanAsNumber fuel Json.readWord32 "u32") false,
      .of "method" (·.method) (fun d x ↦ { d with method := some x })
        (Json.scanVariant fuel Method.table) false,
      .of "id" (·.id) (fun d x ↦ { d with id := some x })
        (Json.scanAsOptional (Json.scanAsString fuel "a string")) true,
      .of "params" (·.params) (fun d x ↦ { d with params := some x })
        (Json.scanAsOptional (Json.scanValue fuel (Json.maxDepth - 1))) true]
  closed := true

def Draft.finish (d : Draft) : Except Mismatch Request :=
  match d.version, d.method with
  | none, _ => .error (.missingField "protocol_version")
  | _, none => .error (.missingField "method")
  | some version, some method => .ok ⟨version, method, d.id.getD none, d.params.getD none⟩

/-- The request a text stands for. -/
def ofBytes (text : Bytes) : Except Json.ReadError Request :=
  let fuel := text.length + 1
  Json.readWhole ((form fuel).scan fuel Json.maxDepth {} Draft.finish) text

/-- A request as JSON, with null for what is absent. -/
def toJson (r : Request) : Json :=
  .object [("id", Json.optString r.id), ("method", .string r.method.name),
    ("params", r.params.getD .null), ("protocol_version", Json.nat r.version)]

/-- The line of a request, in the order in which it is written: version, method, id, params. -/
def line (r : Request) : String :=
  let pair (name : String) (j : Json) : String := "\"" ++ name ++ "\":" ++ j.compact
  "\x7b" ++ ",".intercalate
    [pair "protocol_version" (Json.nat r.version), pair "method" (.string r.method.name),
      pair "id" (Json.optString r.id), pair "params" (r.params.getD .null)] ++ "\x7d\n"

end Request
end QueryWatch
