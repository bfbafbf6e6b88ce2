import QueryWatch.Text.Blank
import QueryWatch.Time.Timestamp

/-!
Reading timestamps in the form of RFC 3339, with some freedom: the date and the time may be parted
by a space, blanks may stand in front of numbers and separators, and universal time may be called
UTC. A signed year may have any number of digits.
-/

set_option autoImplicit false

namespace QueryWatch

/-- Why a text is not a timestamp. -/
inductive TimeFault
  | outOfRange
  | impossible
  | invalid
  | tooShort
  | tooLong
  deriving DecidableEq, Repr

def TimeFault.message : TimeFault → String
  | outOfRange => "input is out of range"
  | impossible => "no possible date and time matching input"
  | invalid => "input contains invalid characters"
  | tooShort => "premature end of input"
  | tooLong => "trailing input"

namespace Timestamp

/-- Reading a part of a text. -/
abbrev Part (α : Type) := Except TimeFault (α × List Char)

/-- How many bytes a text has in UTF-8. -/
def byteLength (s : List Char) : Nat := s.foldl (fun n c ↦ n + c.utf8Size) 0

def digitOf (c : Char) : Nat := c.toNat - 48

/-- Reads a number of at least one digit and at most `width` ones. -/
def readDigits (width : Nat) (s : List Char) : Part (List Char) :=
  match s with
  | [] => .error .tooShort
  | _ =>
    match (s.take width).takeWhile Char.isDigit with
    | [] => .error .invalid
    | digits => .ok (digits, s.drop digits.length)

def valueOf (digits : List Char) : Nat := digits.foldl (fun n c ↦ 10 * n + digitOf c) 0

/-- Reads a number between two bounds. -/
def readNumber (low high : Nat) (s : List Char) : Part Nat :=
  match readDigits 2 (Text.dropBlanks s) with
  | .error e => .error e
  | .ok (digits, r) =>
    let n := valueOf digits
    if low ≤ n ∧ n ≤ high then .ok (n, r) else .error .outOfRange

/-- The sign in front of a year: whether it is negative, how many digits may follow, and the text
behind it. -/
def signOf : List Char → Bool × Nat × List Char
  | '-' :: r => (true, r.length, r)
  | '+' :: r => (false, r.length, r)
  | r => (false, 4, r)

/-- Reads a year. -/
def readYear (s : List Char) : Part Int :=
  let (negative, width, s) := signOf (Text.dropBlanks s)
  match readDigits width s with
  | .error e => .error e
  | .ok (digits, r) =>
    let n : Int := valueOf digits
    let year := if negative then -n else n
    if -(Nat.pow 2 31 : Int) ≤ year ∧ year < Nat.pow 2 31 then .ok (year, r) else .error .outOfRange

/-- Reads a separator. -/
def readSeparator (c : Char) (s : List Char) : Part Unit :=
  match Text.dropBlanks s with
  | [] => .error .tooShort
  | d :: r => if d = c then .ok ((), r) else .error .invalid

/-- Reads the fraction of a second as nanoseconds; digits behind the ninth count for nothing. -/
def readFraction (s : List Char) : Part Nat :=
  match s with
  | '.' :: r =>
    match readDigits 9 r with
    | .error e => .error e
    | .ok (digits, r) =>
      .ok (valueOf digits * Nat.pow 10 (9 - digits.length), r.dropWhile Char.isDigit)
  | _ => .ok (0, s)

/-- Reads two digits, the first of them up to `high`; above it they are out of range. -/
def readPair (high : Char) (s : List Char) : Part Nat :=
  match s with
  | a :: b :: r =>
    if a.isDigit && b.isDigit then
      if a ≤ high then .ok (10 * digitOf a + digitOf b, r) else .error .outOfRange
    else .error .invalid
  | _ => if byteLength s < 2 then .error .tooShort else .error .invalid

/-- Reads a distance from universal time, in seconds. -/
def readOffset (s : List Char) : Part Int :=
  let signed (sign : Int) (s : List Char) : Part Int :=
    match readPair '9' s with
    | .error e => .error e
    | .ok (hours, r) =>
      match readPair '5' (r.dropWhile fun c ↦ c = ':' || Text.isBlank c) with
      | .error e => .error e
      | .ok (minutes, r) => .ok (sign * (hours * 3600 + minutes * 60), r)
  match s with
  | [] => .error .tooShort
  | c :: r =>
    if c = 'Z' ∨ c = 'z' then .ok (0, r)
    else if c = '+' then signed 1 r
    else if c = '-' ∨ c = '\u2212' then signed (-1) r
    else .error .invalid

/-- Reads the zone behind a time. -/
def readZone (s : List Char) : Part Int :=
  let s := Text.dropBlanks s
  if (s.take 3).map Char.toUpper = ['U', 'T', 'C'] then .ok (0, s.drop 3) else readOffset s

/-- The first and the last second that have a timestamp. -/
def bounds : Int × Int :=
  (CalendarDate.toDays ⟨-262143, 1, 1⟩ * secondsPerDay,
    CalendarDate.toDays ⟨262143, 1, 1⟩ * secondsPerDay - 1)

/-- The timestamp of a date and a time of day at some distance from universal time. -/
def ofParts (date : CalendarDate) (second nanos : Nat) (offset : Int) :
    Except TimeFault Timestamp :=
  if date.day > CalendarDate.daysInMonth date.year date.month then .error .outOfRange
  else if date.year < -262143 ∨ 262142 < date.year then .error .outOfRange
  else if offset.natAbs ≥ 86400 then .error .outOfRange
  else
    let seconds := date.toDays * secondsPerDay + second - offset
    if seconds < bounds.1 ∨ bounds.2 < seconds then .error .impossible else .ok ⟨seconds, nanos⟩

/-- The timestamp a text stands for. -/
def ofText (text : String) : Except TimeFault Timestamp := do
  let (year, s) ← readYear text.toList
  let (_, s) ← readSeparator '-' s
  let (month, s) ← readNumber 1 12 s
  let (_, s) ← readSeparator '-' s
  let (day, s) ← readNumber 1 31 s
  let s ← match s with
    | [] => .error .tooShort
    | c :: r => if c = 'T' ∨ c = 't' ∨ c = ' ' then .ok r else .error .invalid
  let (hour, s) ← readNumber 0 23 s
  let (_, s) ← readSeparator ':' s
  let (minute, s) ← readNumber 0 59 s
  let (_, s) ← readSeparator ':' s
  let (second, s) ← readNumber 0 60 s
  let (nanos, s) ← readFraction s
  let (offset, s) ← readZone s
  if !(Text.dropBlanks s).isEmpty then .error .tooLong
  else
    let leap := second = 60
    ofParts ⟨year, month, day⟩ (hour * 3600 + minute * 60 + if leap then 59 else second)
      (if leap then nanos + 1000000000 else nanos) offset

end Timestamp
end QueryWatch
