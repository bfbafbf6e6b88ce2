import QueryWatch.Decimal.Literal
import QueryWatch.Time.Timestamp
import QueryWatch.Toml.Node
import QueryWatch.Toml.Text

/-!
The numbers and points in time of TOML. Whole numbers fit into 64 bits with a sign; between two
digits there may be one underscore. Points in time are checked against the calendar and the clock,
and then only known to be such.
-/

set_option autoImplicit false

namespace QueryWatch.Toml

/-- The digits a text starts with, without the underscores between them. -/
def digitRun (isDigit : Char → Bool) : List Char → List Char × List Char
  | '_' :: c :: r =>
    if isDigit c then
      let (digits, rest) := digitRun isDigit r
      (c :: digits, rest)
    else ([], '_' :: c :: r)
  | c :: r =>
    if isDigit c then
      let (digits, rest) := digitRun isDigit r
      (c :: digits, rest)
    else ([], c :: r)
  | [] => ([], [])

/-- Reads digits, the first of which is not behind an underscore. -/
def digits (isDigit : Char → Bool) : Part (List Char)
  | c :: r =>
    if isDigit c then
      let (more, rest) := digitRun isDigit r
      some (c :: more, rest)
    else none
  | [] => none

/-- A sign, if there is one. -/
def sign : List Char → List Char × List Char
  | '+' :: r => (['+'], r)
  | '-' :: r => (['-'], r)
  | r => ([], r)

/-- Reads a whole number to the base ten, with its sign. Zero stands alone. -/
def decimal : Part (List Char) := fun s ↦
  let (sign, s) := sign s
  match s with
  | '0' :: r => some (sign ++ ['0'], r)
  | s => (digits Char.isDigit s).map fun (ds, r) ↦ (sign ++ ds, r)

/-- The value of digits to a base. -/
def valueIn (base : Nat) (ds : List Char) : Nat :=
  ds.foldl (fun n c ↦ base * n + (hexDigit? c).getD 0) 0

/-- A whole number, if it fits into 64 bits with a sign. -/
def fit (i : Int) : Option Node :=
  if -(Nat.pow 2 63 : Int) ≤ i ∧ i < Nat.pow 2 63 then some (.whole i) else none

/-- Reads a whole number to a base behind its mark. -/
def inBase (base : Nat) : Part Node := fun s ↦
  match digits (fun c ↦ (hexDigit? c).any (· < base)) s with
  | none => none
  | some (ds, r) => (fit (valueIn base ds)).map (·, r)

/-- Reads a whole number. -/
def whole : Part Node
  | '0' :: 'x' :: r => inBase 16 r
  | '0' :: 'o' :: r => inBase 8 r
  | '0' :: 'b' :: r => inBase 2 r
  | s =>
    match decimal s with
    | none => none
    | some ('-' :: ds, r) => (fit (-(valueIn 10 ds : Int))).map (·, r)
    | some ('+' :: ds, r) => (fit (valueIn 10 ds)).map (·, r)
    | some (ds, r) => (fit (valueIn 10 ds)).map (·, r)

/-- Reads a power of ten. -/
def exponent : Part (List Char)
  | c :: r =>
    if c = 'e' ∨ c = 'E' then
      let (sign, r) := sign r
      (digits Char.isDigit r).map fun (ds, r) ↦ ('e' :: sign ++ ds, r)
    else none
  | [] => none

/-- Reads what makes a number one with a fraction: digits behind a point, a power of ten, or
both. -/
def fraction : Part (List Char)
  | '.' :: r =>
    match digits Char.isDigit r with
    | none => none
    | some (ds, r) =>
      match exponent r with
      | none => some ('.' :: ds, r)
      | some (e, r) => some ('.' :: ds ++ e, r)
  | s => exponent s

/-- Reads a number with a fraction or a power of ten. It must not be too large for binary64. -/
def real : Part Node := fun s ↦
  match decimal s with
  | none => none
  | some (whole, r) =>
    match fraction r with
    | none => none
    | some (rest, r) =>
      match Decimal.Literal.ofText? (String.ofList (whole ++ rest)) with
      | some (.infinite false) => none
      | some _ => some (.real, r)
      | none => none

/-- Reads a word. -/
def word (w : String) (node : Node) : Part Node := fun s ↦
  if w.toList.isPrefixOf s then some (node, s.drop w.length) else none

/-- Reads the words for infinity and for no number. -/
def special : Part Node := fun s ↦
  let (_, s) := sign s
  (word "inf" .real s).orElse fun _ ↦ word "nan" .real s

/-! ### Points in time -/

/-- Reads a number of so many digits between two bounds. -/
def fixed (count low high : Nat) : Part Nat := fun s ↦
  let ds := s.take count
  let n := valueIn 10 ds
  if ds.length = count ∧ ds.all Char.isDigit ∧ low ≤ n ∧ n ≤ high then some (n, s.drop count)
  else none

/-- Reads a character. -/
def mark (c : Char) : Part Unit
  | d :: r => if d = c then some ((), r) else none
  | [] => none

/-- Reads a date. -/
def date : Part Unit := fun s ↦ do
  let (year, s) ← fixed 4 0 9999 s
  let (_, s) ← mark '-' s
  let (month, s) ← fixed 2 1 12 s
  let (_, s) ← mark '-' s
  let (_, s) ← fixed 2 1 (CalendarDate.daysInMonth year month) s
  return ((), s)

/-- Reads a time of day. -/
def clock : Part Unit := fun s ↦ do
  let (_, s) ← fixed 2 0 23 s
  let (_, s) ← mark ':' s
  let (_, s) ← fixed 2 0 59 s
  let (_, s) ← mark ':' s
  let (_, s) ← fixed 2 0 60 s
  match s with
  | '.' :: c :: r =>
    return if c.isDigit then ((), r.dropWhile Char.isDigit) else ((), '.' :: c :: r)
  | s => return ((), s)

/-- Reads a distance from universal time. -/
def offset : Part Unit
  | c :: r =>
    if c = 'Z' ∨ c = 'z' then some ((), r)
    else if c = '+' ∨ c = '-' then do
      let (_, s) ← fixed 2 0 23 r
      let (_, s) ← mark ':' s
      let (_, s) ← fixed 2 0 59 s
      return ((), s)
    else none
  | [] => none

/-- Reads the time of day behind a date, with its distance from universal time if that is given. -/
def clockBehindDate : Part Unit
  | c :: r =>
    if c = 'T' ∨ c = 't' ∨ c = ' ' then
      match clock r with
      | none => none
      | some (_, r) => some ((offset r).getD ((), r))
    else none
  | [] => none

/-- Reads a point in time. -/
def time : Part Node := fun s ↦
  match date s with
  | some (_, r) => some (.time, ((clockBehindDate r).getD ((), r)).2)
  | none => (clock s).map fun (_, r) ↦ (.time, r)

/-- Reads what starts with a sign or a digit. -/
def number : Part Node := fun s ↦
  ((time s).orElse fun _ ↦ (real s).orElse fun _ ↦ (special s).orElse fun _ ↦ whole s)

end QueryWatch.Toml
