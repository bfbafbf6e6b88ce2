import QueryWatch.Json.Mismatch

/-!
Reading values as the types of a program. A record may be given as an object or as a list of its
fields in order. In an object the fields are checked in the order of their names, before any absent
one is noticed (`Layout.check`); in a list each is read in its place. So of two mismatches it is
fixed which one is reported.
-/

set_option autoImplicit false

namespace QueryWatch.Json

/-- Reading a value of a type. -/
abbrev Read (α : Type) := Json → Except Mismatch α

def readString : Read String
  | .string s => .ok s
  | j => .error (.wrongType j.found "a string")

def readBool : Read Bool
  | .bool b => .ok b
  | j => .error (.wrongType j.found "a boolean")

/-- A whole number below `bound`, of the type called `expected`. -/
def readBelow (bound : Nat) (expected : String) : Read Nat
  | .number (.whole i) =>
    if 0 ≤ i ∧ i < bound then .ok i.toNat else .error (.wrongValue (.whole i) expected)
  | j => .error (.wrongType j.found expected)

def readWord8 : Read UInt8 := fun j ↦ (readBelow UInt8.size "u8" j).map Nat.toUInt8

def readWord32 : Read Nat := readBelow UInt32.size "u32"

def readWord64 : Read UInt64 := fun j ↦ (readBelow UInt64.size "u64" j).map Nat.toUInt64

/-- A number of things. -/
def readSize : Read Nat := readBelow UInt64.size "usize"

/-- A value that may be null. -/
def readOptional {α : Type} (read : Read α) : Read (Option α)
  | .null => .ok none
  | j => (read j).map some

def readList {α : Type} (read : Read α) : Read (List α)
  | .array items => items.mapM read
  | j => .error (.wrongType j.found "a sequence")

/-- One of some names, given as the name alone or as the only field of an object, with nothing in
it. -/
def readVariant {α : Type} (variants : List (String × α)) : Read α
  | .string s => variant s
  | .object [(name, value)] => do
    let a ← variant name
    match value with
    | .null => pure a
    | .object [] => pure a
    | v => .error (.wrongType v.found "unit")
  | .object _ => .error (.wrongValue .map "map with a single key")
  | j => .error (.wrongType j.found "string or map")
where
  variant (name : String) : Except Mismatch α :=
    match variants.lookup name with
    | some a => .ok a
    | none => .error (.unknownVariant name (variants.map Prod.fst))

/-- A field of a record: its name, its type, and what it is when absent, if it can be. -/
structure Member (α : Type) where
  name : String
  read : Read α
  absent : Option α

/-- A field that must be given. -/
def Member.required {α : Type} (name : String) (read : Read α) : Member α := ⟨name, read, none⟩

/-- A field with a default. -/
def Member.withDefault {α : Type} (name : String) (read : Read α) (value : α) : Member α :=
  ⟨name, read, some value⟩

/-- A name that fields may have, and what its value is checked for. -/
structure Rule where
  name : String
  check : Json → Except Mismatch Unit

/-- What a field demands when it is given. -/
def Member.rule {α : Type} (f : Member α) : Rule := ⟨f.name, fun j ↦ (f.read j).map fun _ ↦ ()⟩

/-- The fields of a record: what the record is called, its rules in order, and whether other fields
are refused. -/
structure Layout where
  name : String
  rules : List Rule
  closed : Bool

/-- What a message calls a record. -/
def Layout.expected (l : Layout) : String := "struct " ++ l.name

/-- What a message calls a record of which some items are missing. -/
def Layout.expectedItems (l : Layout) : String :=
  l.expected ++ " with " ++ toString l.rules.length ++
    if l.rules.length = 1 then " element" else " elements"

/-- Checks the fields given, in order. -/
def Layout.check (l : Layout) : Fields → Except Mismatch Unit
  | [] => .ok ()
  | (name, value) :: rest =>
    match l.rules.find? (·.name == name) with
    | some rule =>
      match rule.check value with
      | .error m => .error m
      | .ok () => l.check rest
    | none =>
      if l.closed then .error (.unknownField name (l.rules.map (·.name))) else l.check rest

/-- A record as it is given. -/
inductive Given
  | named (fields : Fields)
  | listed (items : List Json)

/-- A record as it is given by a value, its named fields checked. -/
def Layout.given (l : Layout) : Read Given
  | .object fields => (l.check fields).map fun _ ↦ .named fields
  | .array items => .ok (.listed items)
  | j => .error (.wrongType j.found l.expected)

/-- The field at an index. -/
def Given.field {α : Type} (g : Given) (l : Layout) (index : Nat) (f : Member α) :
    Except Mismatch α :=
  match g with
  | .named fields =>
    match fields.get? f.name with
    | some j => f.read j
    | none =>
      match f.absent with
      | some a => .ok a
      | none => .error (.missingField f.name)
  | .listed items =>
    match items[index]? with
    | some j => f.read j
    | none =>
      match f.absent with
      | some a => .ok a
      | none => .error (.wrongLength index l.expectedItems)

/-- Checks that a list has no more items than the record has fields. -/
def Given.finish (g : Given) (l : Layout) : Except Mismatch Unit :=
  match g with
  | .named _ => .ok ()
  | .listed items =>
    if items.length ≤ l.rules.length then .ok ()
    else .error (.wrongLength items.length "fewer elements in array")

end QueryWatch.Json
