import QueryWatch.Json.Reader
import QueryWatch.Json.Record

/-!
Reading a text as a value of a known type, without making a JSON value of it first. What has the
wrong type is noticed where it stands: behind it if it is a number, a string or a word, and in front
of it if it is a list or an object.
-/

set_option autoImplicit false

namespace QueryWatch.Json

open Text (Bytes)

/-- Reading the text of a value of a type. -/
abbrev ScanAs (α : Type) := Bytes → Scan α

/-- A mismatch noticed before the given bytes. -/
def Stop.mismatch (m : Mismatch) (unread : Bytes) : Stop := ⟨.mismatch m, unread, true⟩

/-- A mismatch in a record that is still under way before the given bytes. -/
def Stop.inRecord (m : Mismatch) (unread : Bytes) : Stop := ⟨.mismatch m, unread, false⟩

/-- Stops at a value that is not of the type called `expected`; its first byte is given apart. -/
def stopAt (fuel : Nat) (expected : String) (c : UInt8) (r : Bytes) : Stop :=
  let behind (scan : Scan Json) : Stop :=
    match scan with
    | .error stop => stop
    | .ok (j, rest) => .mismatch (.wrongType j.found expected) rest
  if c = 110 then behind (scanNamed [117, 108, 108] .null r)
  else if c = 116 then behind (scanNamed [114, 117, 101] (.bool true) r)
  else if c = 102 then behind (scanNamed [97, 108, 115, 101] (.bool false) r)
  else if c = 45 then behind (scanNumberValue true r)
  else if isDigit c then behind (scanNumberValue false (c :: r))
  else if c = 34 then behind (scanStringValue fuel r)
  else if c = 91 then .mismatch (.wrongType .sequence expected) (c :: r)
  else if c = 123 then .mismatch (.wrongType .map expected) (c :: r)
  else .fault .valueExpected r

/-- Reads a string. -/
def scanAsString (fuel : Nat) (expected : String) : ScanAs String := fun s ↦
  match skipSpace s with
  | [] => .error (.fault .endInValue [])
  | c :: r => if c = 34 then scanString fuel r else .error (stopAt fuel expected c r)

/-- Reads a truth value. -/
def scanAsBool (fuel : Nat) : ScanAs Bool := fun s ↦
  match skipSpace s with
  | [] => .error (.fault .endInValue [])
  | c :: r =>
    if c = 116 then
      match scanWord [114, 117, 101] r with
      | .error stop => .error stop
      | .ok r => .ok (true, r)
    else if c = 102 then
      match scanWord [97, 108, 115, 101] r with
      | .error stop => .error stop
      | .ok r => .ok (false, r)
    else .error (stopAt fuel "a boolean" c r)

/-- Reads a number as a value of a type of numbers. -/
def scanAsNumber {α : Type} (fuel : Nat) (read : Read α) (expected : String) : ScanAs α := fun s ↦
  match skipSpace s with
  | [] => .error (.fault .endInValue [])
  | c :: r =>
    if c = 45 || isDigit c then
      match (if c = 45 then scanNumber true r else scanNumber false (c :: r)) with
      | .error stop => .error stop
      | .ok (n, rest) =>
        match read (.number n) with
        | .ok a => .ok (a, rest)
        | .error m => .error (.mismatch m rest)
    else .error (stopAt fuel expected c r)

/-- Reads a value that may be null. -/
def scanAsOptional {α : Type} (scan : ScanAs α) : ScanAs (Option α) := fun s ↦
  match skipSpace s with
  | 110 :: r =>
    match scanWord [117, 108, 108] r with
    | .error stop => .error stop
    | .ok r => .ok (none, r)
  | s =>
    match scan s with
    | .error stop => .error stop
    | .ok (a, r) => .ok (some a, r)

/-- Reads null. -/
def scanNull (fuel : Nat) (expected : String) : ScanAs Unit := fun s ↦
  match skipSpace s with
  | [] => .error (.fault .endInValue [])
  | c :: r =>
    if c = 110 then
      match scanWord [117, 108, 108] r with
      | .error stop => .error stop
      | .ok r => .ok ((), r)
    else .error (stopAt fuel expected c r)

/-- Reads one of some names. -/
def scanName? {α : Type} (fuel : Nat) (variants : List (String × α)) : ScanAs α := fun s ↦
  match scanAsString fuel "variant identifier" s with
  | .error stop => .error stop
  | .ok (name, r) =>
    match variants.lookup name with
    | some a => .ok (a, r)
    | none => .error (.mismatch (.unknownVariant name (variants.map Prod.fst)) r)

/-- Reads one of some names, given as the name alone or as the only field of an object, with null
in it. -/
def scanVariant {α : Type} (fuel : Nat) (variants : List (String × α)) : ScanAs α := fun s ↦
  match skipSpace s with
  | [] => .error (.fault .endInValue [])
  | c :: r =>
    if c = 34 then scanName? fuel variants (c :: r)
    else if c = 123 then
      match scanName? fuel variants r with
      | .error stop => .error stop
      | .ok (a, r) =>
        match scanColon r with
        | .error stop => .error stop
        | .ok r =>
          match scanNull fuel "unit" r with
          | .error stop => .error stop
          | .ok (_, r) =>
            match skipSpace r with
            | [] => .error (.fault .endInObject [])
            | d :: t => if d = 125 then .ok (a, t) else .error (.fault .valueExpected (d :: t))
    else .error (.fault .valueExpected r)

end QueryWatch.Json
