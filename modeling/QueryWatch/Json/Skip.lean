import QueryWatch.Json.Reader

/-!
Reading past values that nobody asked for. Nesting is not limited, strings may hold any bytes, and
numbers any magnitude; but the text has to be well formed. The brackets that are still open are kept
in a list, the innermost one first.
-/

set_option autoImplicit false

namespace QueryWatch.Json

open Text (Bytes)

/-- Reads past a string, behind its opening quote. -/
def skipString : (fuel : Nat) → Bytes → Except Stop Bytes
  | 0, s => .error (.fault .endInString s)
  | _ + 1, [] => .error (.fault .endInString [])
  | fuel + 1, b :: r =>
    if b = 34 then .ok r
    else if b = 92 then
      match r with
      | [] => .error (.fault .endInString [])
      | c :: r =>
        if c = 117 then
          match scanHex r with
          | .error stop => .error stop
          | .ok (_, r) => skipString fuel r
        else if [34, 92, 47, 98, 102, 110, 114, 116].contains c then skipString fuel r
        else .error (.fault .invalidEscape r)
    else if b < 32 then .error (.fault .controlCharacter (b :: r))
    else skipString fuel r

/-- Reads past the digits of a power of ten, behind its mark. -/
def skipExponent (s : Bytes) : Except Stop Bytes :=
  let s := match s with
    | 43 :: r => r
    | 45 :: r => r
    | r => r
  match s with
  | [] => .error (.fault .invalidNumber [])
  | c :: r => if isDigit c then .ok (r.dropWhile isDigit) else .error (.fault .invalidNumber r)

/-- Reads past the power of ten of a number, if it has one. -/
def skipScale (s : Bytes) : Except Stop Bytes :=
  match s with
  | 69 :: r => skipExponent r
  | 101 :: r => skipExponent r
  | r => .ok r

/-- Reads past what follows the digits before the point of a number. -/
def skipFraction (s : Bytes) : Except Stop Bytes :=
  match s with
  | 46 :: r =>
    match r with
    | c :: t =>
      if isDigit c then skipScale (t.dropWhile isDigit) else .error (.atNext .invalidNumber r)
    | [] => .error (.fault .invalidNumber [])
  | r => skipScale r

/-- Reads past a number, behind its sign. -/
def skipNumber (s : Bytes) : Except Stop Bytes :=
  match s with
  | [] => .error (.fault .invalidNumber [])
  | 48 :: r =>
    if (r.head?.map isDigit).getD false then .error (.atNext .invalidNumber r)
    else skipFraction r
  | c :: r =>
    if isDigit c then skipFraction (r.dropWhile isDigit) else .error (.fault .invalidNumber r)

/-- An opening bracket. -/
inductive Bracket
  | list
  | object
  deriving DecidableEq, Repr

/-- Reads past a field's name and its colon. -/
def skipName (fuel : Nat) (s : Bytes) : Except Stop Bytes :=
  match skipSpace s with
  | [] => .error (.fault .endInObject [])
  | c :: r =>
    if c = 34 then
      match skipString fuel r with
      | .error stop => .error stop
      | .ok r => scanColon r
    else .error (.fault .keyNotString r)

/-- What comes at the place where a value may stand: a value without parts, or an opening
bracket. -/
def skipStart (fuel : Nat) (s : Bytes) : Except Stop (Option Bracket × Bytes) :=
  let plain (r : Except Stop Bytes) := r.map fun r ↦ (none, r)
  match skipSpace s with
  | [] => .error (.fault .endInValue [])
  | c :: r =>
    if c = 110 then plain (scanWord [117, 108, 108] r)
    else if c = 116 then plain (scanWord [114, 117, 101] r)
    else if c = 102 then plain (scanWord [97, 108, 115, 101] r)
    else if c = 45 then plain (skipNumber r)
    else if isDigit c then plain (skipNumber (c :: r))
    else if c = 34 then plain (skipString fuel r)
    else if c = 91 then .ok (some .list, r)
    else if c = 123 then .ok (some .object, r)
    else .error (.fault .valueExpected r)

/-- Reads closing brackets, up to the place where the next item or field starts, or up to the end
of the value if no bracket is left open. Between items there must be a comma; directly behind an
opening bracket (`first`) there must be none. -/
def skipClosing : (fuel : Nat) → (first : Bool) → List Bracket → Bytes →
    Except Stop (List Bracket × Bytes)
  | 0, _, _, s => .error (.fault .endInList s)
  | _ + 1, _, [], s => .ok ([], s)
  | fuel + 1, first, b :: outer, s =>
    match skipSpace s with
    | [] => .error (.fault (match b with
      | .list => .endInList
      | .object => .endInObject) [])
    | c :: r =>
      if c = 44 && !first then .ok (b :: outer, r)
      else if (c = 93 && b = .list) || (c = 125 && b = .object) then
        skipClosing fuel false outer r
      else if first then .ok (b :: outer, c :: r)
      else .error (.fault (match b with
        | .list => .listEndExpected
        | .object => .objectEndExpected) r)

/-- Reads past a value inside the open brackets, and past what follows it until none is open. -/
def skipInside (fuel : Nat) : (rounds : Nat) → List Bracket → Bytes → Except Stop Bytes
  | 0, _, s => .error (.fault .endInValue s)
  | rounds + 1, outer, s =>
    match skipStart fuel s with
    | .error stop => .error stop
    | .ok (opened, s) =>
      match skipClosing fuel opened.isSome (opened.toList ++ outer) s with
      | .error stop => .error stop
      | .ok ([], s) => .ok s
      | .ok (.list :: outer, s) => skipInside fuel rounds (.list :: outer) s
      | .ok (.object :: outer, s) =>
        match skipName fuel s with
        | .error stop => .error stop
        | .ok s => skipInside fuel rounds (.object :: outer) s

/-- Reads past a value. The fuel is a number above the length of the text. -/
def skipValue (fuel : Nat) (s : Bytes) : Except Stop Bytes := skipInside fuel fuel [] s

end QueryWatch.Json
