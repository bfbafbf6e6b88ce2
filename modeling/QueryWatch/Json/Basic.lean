import QueryWatch.Decimal.Binary64

/-!
JSON values. A number is a whole one or a binary64 one and stays what it was read as. An object is
the list of its fields in ascending order of their names, each name once (`Fields.ofRecent`).
-/

set_option autoImplicit false

namespace QueryWatch

inductive Json.Number
  | whole (i : Int)
  | real (x : Decimal.Binary64)
  deriving DecidableEq, Repr

inductive Json
  | null
  | bool (b : Bool)
  | number (n : Json.Number)
  | string (s : String)
  | array (items : List Json)
  | object (fields : List (String × Json))
  deriving Repr, BEq, Inhabited

namespace Json

/-- The fields of an object. -/
abbrev Fields := List (String × Json)

/-- The fields with one more, unless there is one of its name. -/
def Fields.insertAbsent (name : String) (value : Json) : Fields → Fields
  | [] => [(name, value)]
  | (n, v) :: rest =>
    if name < n then (name, value) :: (n, v) :: rest
    else if name = n then (n, v) :: rest
    else (n, v) :: insertAbsent name value rest

/-- The fields given by pairs, latest first: of several pairs of one name the latest counts. -/
def Fields.ofRecent (recent : List (String × Json)) : Fields :=
  recent.foldl (fun fields p ↦ fields.insertAbsent p.1 p.2) []

/-- The value of a field. -/
def Fields.get? (fields : Fields) (name : String) : Option Json := fields.lookup name

/-- The value of a field of an object; other values have none. -/
def get? (j : Json) (name : String) : Option Json :=
  match j with
  | object fields => Fields.get? fields name
  | _ => none

def asString? : Json → Option String
  | string s => some s
  | _ => none

def asBool? : Json → Option Bool
  | bool b => some b
  | _ => none

/-- A whole number from zero up to the largest of 64 bits. -/
def asCount? : Json → Option Nat
  | number (.whole i) => if 0 ≤ i ∧ i < UInt64.size then some i.toNat else none
  | _ => none

/-- A whole number from zero on. -/
def nat (n : Nat) : Json := number (.whole n)

/-- A text, or null if there is none. -/
def optString : Option String → Json
  | some s => string s
  | none => null

/-- A list of texts. -/
def strings (texts : List String) : Json := array (texts.map string)

end Json
end QueryWatch
