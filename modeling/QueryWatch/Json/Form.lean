import QueryWatch.Json.Skip
import QueryWatch.Json.Typed

/-!
Reading the text of a record, given as an object or as a list of its fields in order. A form says
which fields there are; reading one adds it to a draft of the record. A mismatch that concerns the
record and not one of its values is reported where the record ends, as far as that can be seen.
-/

set_option autoImplicit false

namespace QueryWatch.Json

open Text (Bytes)

/-- A field of a record whose draft is a `σ`: whether the draft has it, how it is read, and whether
a list may end before it. -/
structure Slot (σ : Type) where
  name : String
  given : σ → Bool
  scan : σ → ScanAs σ
  omissible : Bool

/-- A field that is read by `scan` and put into the draft by `put`. -/
def Slot.of {σ α : Type} (name : String) (get : σ → Option α) (put : σ → α → σ)
    (scan : ScanAs α) (omissible : Bool) : Slot σ where
  name := name
  given := fun draft ↦ (get draft).isSome
  scan := fun draft s ↦
    match scan s with
    | .error stop => .error stop
    | .ok (a, r) => .ok (put draft a, r)
  omissible := omissible

/-- The fields of a record in order, what the record is called, and whether other fields are
refused. -/
structure Form (σ : Type) where
  name : String
  slots : List (Slot σ)
  closed : Bool

namespace Form

variable {σ : Type}

def expected (f : Form σ) : String := "struct " ++ f.name

def expectedItems (f : Form σ) : String :=
  f.expected ++ " with " ++ toString f.slots.length ++ " elements"

/-- Reads the value of a field, behind its colon. -/
def scanField (f : Form σ) (fuel : Nat) (name : String) (draft : σ) (s : Bytes) : Scan σ :=
  match f.slots.find? (·.name == name) with
  | some slot =>
    match scanColon s with
    | .error stop => .error stop
    | .ok s => slot.scan draft s
  | none =>
    match scanColon s with
    | .error stop => .error stop
    | .ok s =>
      match skipValue fuel s with
      | .error stop => .error stop
      | .ok s => .ok (draft, s)

/-- Why a field of this name cannot come next, if it cannot. -/
def refusal (f : Form σ) (draft : σ) (name : String) : Option Mismatch :=
  match f.slots.find? (·.name == name) with
  | some slot => if slot.given draft then some (.duplicateField name) else none
  | none =>
    if f.closed then some (.unknownField name (f.slots.map (·.name))) else none

/-- Reads the fields that are left, at least one, behind the opening quote of its name. -/
def scanFields (f : Form σ) (fuel : Nat) : (rounds : Nat) → σ → ScanAs σ
  | 0, _, s => .error (.fault .endInObject s)
  | rounds + 1, draft, s =>
    match scanString fuel s with
    | .error stop => .error stop
    | .ok (name, s) =>
      match f.refusal draft name with
      | some m => .error (.inRecord m s)
      | none =>
        match f.scanField fuel name draft s with
        | .error stop => .error stop
        | .ok (draft, s) =>
          match skipSpace s with
          | [] => .error (.fault .endInObject [])
          | c :: r =>
            if c = 125 then .ok (draft, r)
            else if c = 44 then
              match skipSpace r with
              | [] => .error (.fault .endInValue [])
              | d :: t =>
                if d = 34 then scanFields f fuel rounds draft t
                else if d = 125 then .error (.fault .trailingComma t)
                else .error (.fault .keyNotString t)
            else .error (.fault .objectEndExpected r)

/-- Reads an object behind its opening brace. -/
def scanObject (f : Form σ) (fuel : Nat) (draft : σ) : ScanAs σ := fun s ↦
  match skipSpace s with
  | [] => .error (.fault .endInObject [])
  | c :: r =>
    if c = 125 then .ok (draft, r)
    else if c = 34 then f.scanFields fuel fuel draft r
    else .error (.fault .keyNotString r)

/-- The start of a list's next item, or `none` where the list ends. -/
def nextItem (first : Bool) (s : Bytes) : Except Stop (Option Bytes) :=
  match skipSpace s with
  | [] => .error (.fault .endInList [])
  | c :: r =>
    if c = 93 then .ok none
    else if first then .ok (some (c :: r))
    else if c = 44 then
      match skipSpace r with
      | [] => .error (.fault .endInValue [])
      | d :: t => if d = 93 then .error (.fault .trailingComma t) else .ok (some (d :: t))
    else .error (.fault .listEndExpected r)

/-- Reads the items for some of the fields, the first of which has the given index. -/
def scanItems (f : Form σ) : (index : Nat) → List (Slot σ) → σ → ScanAs σ
  | _, [], draft, s => .ok (draft, s)
  | index, slot :: slots, draft, s =>
    match nextItem (index = 0) s with
    | .error stop => .error stop
    | .ok (some item) =>
      match slot.scan draft item with
      | .error stop => .error stop
      | .ok (draft, s) => f.scanItems (index + 1) slots draft s
    | .ok none =>
      if slot.omissible then f.scanItems (index + 1) slots draft s
      else .error (.inRecord (.wrongLength index f.expectedItems) s)

/-- Reads the end of a list. -/
def scanListEnd (s : Bytes) : Except Stop Bytes :=
  match skipSpace s with
  | [] => .error (.fault .endInList [])
  | c :: r =>
    if c = 93 then .ok r
    else if c = 44 then
      match skipSpace r with
      | [] => .error (.fault .trailingCharacters [])
      | d :: t =>
        .error (.fault (if d = 93 then .trailingComma else .trailingCharacters) t)
    else .error (.fault .trailingCharacters r)

/-- Reads a list behind its opening bracket. -/
def scanList (f : Form σ) (draft : σ) : ScanAs σ := fun s ↦
  match f.scanItems 0 f.slots draft s with
  | .error stop => .error stop
  | .ok (draft, s) =>
    match scanListEnd s with
    | .error stop => .error stop
    | .ok s => .ok (draft, s)

/-- What is left of a text once the end of an object was looked for. -/
def behindObject (s : Bytes) : Bytes :=
  match skipSpace s with
  | 125 :: r => r
  | s => s

/-- What is left of a text once the end of a list was looked for. -/
def behindList (s : Bytes) : Bytes :=
  match skipSpace s with
  | 93 :: r => r
  | 44 :: r => skipSpace r
  | s => s

/-- A reading whose stop, if it concerns the record, is moved to the record's end. -/
def placed (behind : Bytes → Bytes) (scan : Scan σ) : Scan σ :=
  match scan with
  | .error stop =>
    if stop.placed then .error stop
    else .error ⟨stop.cause, behind stop.unread, true⟩
  | .ok r => .ok r

/-- Reads a record into an empty draft and finishes it. `depth` is how deep values can be nested in
it, with itself counted. -/
def scan {α : Type} (f : Form σ) (fuel depth : Nat) (draft : σ)
    (finish : σ → Except Mismatch α) : ScanAs α := fun s ↦
  let result : Scan σ :=
    match skipSpace s with
    | [] => .error (.fault .endInValue [])
    | c :: r =>
      if c = 123 then
        if depth = 0 then .error (.fault .tooDeep r)
        else placed behindObject (f.scanObject fuel draft r)
      else if c = 91 then
        if depth = 0 then .error (.fault .tooDeep r)
        else placed behindList (f.scanList draft r)
      else .error (stopAt fuel f.expected c r)
  match result with
  | .error stop => .error stop
  | .ok (draft, r) =>
    match finish draft with
    | .ok a => .ok (a, r)
    | .error m => .error (.mismatch m r)

end Form
end QueryWatch.Json
