import QueryWatch.Decimal.Shortest
import QueryWatch.Json.Basic
import QueryWatch.Text.Quoted

/-!
Why a value is not of the type asked for. A mismatch names what was found and what was expected;
`Mismatch.message` words it.
-/

set_option autoImplicit false

namespace QueryWatch.Json

/-- The text of a binary64 number: positional from 0.00001 up to below 10^16. -/
def realLayout : Decimal.Layout := ⟨-5, 15, "e", "+"⟩

/-- What was found in place of the type asked for. -/
inductive Found
  | null
  | bool (b : Bool)
  | whole (i : Int)
  | real (x : Decimal.Binary64)
  | string (s : String)
  | sequence
  | map
  deriving DecidableEq, Repr

/-- The kind of a value, with the value itself if it has no parts. -/
def found : Json → Found
  | .null => .null
  | .bool b => .bool b
  | .number (.whole i) => .whole i
  | .number (.real x) => .real x
  | .string s => .string s
  | .array _ => .sequence
  | .object _ => .map

def Found.text : Found → String
  | .null => "null"
  | .bool b => "boolean `" ++ (if b then "true" else "false") ++ "`"
  | .whole i => "integer `" ++ toString i ++ "`"
  | .real x => "floating point `" ++ realLayout.text x ++ "`"
  | .string s => "string " ++ Text.quoted s
  | .sequence => "sequence"
  | .map => "map"

/-- Why a value is not of the type asked for. -/
inductive Mismatch
  | wrongType (found : Found) (expected : String)
  | wrongValue (found : Found) (expected : String)
  | wrongLength (length : Nat) (expected : String)
  | missingField (name : String)
  | unknownField (name : String) (known : List String)
  | duplicateField (name : String)
  | unknownVariant (name : String) (known : List String)
  | noVariant (type : String)
  | invalidTime (reason : String)
  deriving DecidableEq, Repr

/-- One of some names, each in backticks. -/
def oneOf : List String → String
  | [] => "nothing"
  | [a] => "`" ++ a ++ "`"
  | [a, b] => "`" ++ a ++ "` or `" ++ b ++ "`"
  | names => "one of " ++ ", ".intercalate (names.map fun n ↦ "`" ++ n ++ "`")

def Mismatch.message : Mismatch → String
  | wrongType found expected => "invalid type: " ++ found.text ++ ", expected " ++ expected
  | wrongValue found expected => "invalid value: " ++ found.text ++ ", expected " ++ expected
  | wrongLength length expected =>
    "invalid length " ++ toString length ++ ", expected " ++ expected
  | missingField name => "missing field `" ++ name ++ "`"
  | unknownField name known => "unknown field `" ++ name ++ "`, expected " ++ oneOf known
  | duplicateField name => "duplicate field `" ++ name ++ "`"
  | unknownVariant name known => "unknown variant `" ++ name ++ "`, expected " ++ oneOf known
  | noVariant type => "data did not match any variant of untagged enum " ++ type
  | invalidTime reason => reason

end QueryWatch.Json
