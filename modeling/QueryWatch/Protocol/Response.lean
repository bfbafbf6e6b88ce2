import QueryWatch.Json.Form
import QueryWatch.Json.Writer
import QueryWatch.Telemetry.Refusal

/-!
Answers of the daemon. An answer repeats the id of its request and holds either data or an error.
Whoever reads answers passes over fields it does not know.
-/

set_option autoImplicit false

namespace QueryWatch

open Text (Bytes)
open Json (Form Slot Mismatch)

structure Response where
  ok : Bool
  id : Option String
  data : Option Json
  error : Option ErrorReport
  deriving Repr, BEq

def ErrorReport.toJson (e : ErrorReport) : Json :=
  .object [("code", .string e.code), ("message", .string e.message)]

namespace Response

/-- The answer to a request that was carried out. -/
def success (id : Option String) (data : Json) : Response := ⟨true, id, some data, none⟩

/-- The answer to a request that was refused. -/
def failure (id : Option String) (error : ErrorReport) : Response := ⟨false, id, none, some error⟩

/-- A field that is left out when it is absent. -/
def present (name : String) : Option Json → Json.Fields
  | some j => [(name, j)]
  | none => []

/-- An answer as JSON; what is absent is left out. -/
def toJson (r : Response) : Json :=
  .object (present "data" r.data ++ present "error" (r.error.map (·.toJson)) ++
    present "id" (r.id.map .string) ++ [("ok", .bool r.ok)])

/-- The fields of an answer in the order in which they are written; what is absent is left out. -/
def fields (r : Response) : Json.Fields :=
  ("ok", .bool r.ok) :: (present "id" (r.id.map .string) ++ present "data" r.data ++
    present "error" (r.error.map (·.toJson)))

/-- The line of an answer. -/
def line (r : Response) : String := Json.compact (.object r.fields) ++ "\n"

/-! ### Reading -/

/-- What is known of an error while it is read. -/
structure ErrorDraft where
  code : Option String := none
  message : Option String := none

def errorForm (fuel : Nat) : Form ErrorDraft where
  name := "ErrorInfo"
  slots :=
    [.of "code" (·.code) (fun d x ↦ { d with code := some x })
        (Json.scanAsString fuel "a string") false,
      .of "message" (·.message) (fun d x ↦ { d with message := some x })
        (Json.scanAsString fuel "a string") false]
  closed := false

def ErrorDraft.finish (d : ErrorDraft) : Except Mismatch ErrorReport :=
  match d.code, d.message with
  | none, _ => .error (.missingField "code")
  | _, none => .error (.missingField "message")
  | some code, some message => .ok ⟨code, message⟩

/-- What is known of an answer while it is read. -/
structure Draft where
  ok : Option Bool := none
  id : Option (Option String) := none
  data : Option (Option Json) := none
  error : Option (Option ErrorReport) := none

def form (fuel : Nat) : Form Draft where
  name := "Response"
  slots :=
    [.of "ok" (·.ok) (fun d x ↦ { d with ok := some x }) (Json.scanAsBool fuel) false,
      .of "id" (·.id) (fun d x ↦ { d with id := some x })
        (Json.scanAsOptional (Json.scanAsString fuel "a string")) false,
      .of "data" (·.data) (fun d x ↦ { d with data := some x })
        (Json.scanAsOptional (Json.scanValue fuel (Json.maxDepth - 1))) false,
      .of "error" (·.error) (fun d x ↦ { d with error := some x })
        (Json.scanAsOptional
          ((errorForm fuel).scan fuel (Json.maxDepth - 1) {} ErrorDraft.finish)) false]
  closed := false

def Draft.finish (d : Draft) : Except Mismatch Response :=
  match d.ok with
  | none => .error (.missingField "ok")
  | some ok => .ok ⟨ok, d.id.getD none, d.data.getD none, d.error.getD none⟩

/-- The answer a text stands for. -/
def ofBytes (text : Bytes) : Except Json.ReadError Response :=
  let fuel := text.length + 1
  Json.readWhole ((form fuel).scan fuel Json.maxDepth {} Draft.finish) text

end Response
end QueryWatch
