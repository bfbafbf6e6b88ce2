import QueryWatch.Json.Stop

/-!
Reading the text of a number. The digits fill a whole number of 64 bits as long as they fit
(`Significand.absorb`); what no longer fits is left out and only counts as a power of ten. A number
without point and power that fits is whole. Any other one is worked out by one rounded
multiplication or division of binary64 numbers (`scaled`), so its last digits can differ from those
of the nearest number.
-/

set_option autoImplicit false

namespace QueryWatch.Json

open Text (Bytes)
open Decimal (Binary64)

def isDigit (b : UInt8) : Bool := 48 ≤ b && b ≤ 57

def digitValue (b : UInt8) : Nat := b.toNat - 48

/-- Digits read so far: the whole number made of those that fit into 64 bits, and how many came
after them. -/
structure Significand where
  value : Nat
  omitted : Nat
  deriving DecidableEq, Repr

/-- The significand after more digits: the first one that would not fit, and all behind it, are
omitted. -/
def Significand.absorb (value : Nat) : Bytes → Significand
  | [] => ⟨value, 0⟩
  | d :: rest =>
    let next := value * 10 + digitValue d
    if next < UInt64.size then absorb next rest else ⟨value, rest.length + 1⟩

/-- The nearest binary64 number to a power of ten up to 10^308. -/
def powerOfTen (n : Nat) : Binary64 := (Binary64.ofDecimal false 1 n).getD (.zero false)

/-- A number with its value multiplied by a power of ten, rounded at each step, or `none` if it
gets too large. Powers below 10^-308 are divided out in rounds of 10^308; three of them bring every
number to zero. -/
def scaled : Nat → Binary64 → Int → Option Binary64
  | 0, x, _ => some x
  | rounds + 1, x, e =>
    if 0 ≤ e ∧ e ≤ 308 then x.mul (powerOfTen e.toNat)
    else if -308 ≤ e ∧ e ≤ 0 then x.div (powerOfTen (-e).toNat)
    else if x.isZero then some x
    else if 0 ≤ e then none
    else (x.div (powerOfTen 308)).bind fun y ↦ scaled rounds y (e + 308)

/-- The binary64 number for a significand times a power of ten. -/
def realOf (negative : Bool) (significand : Nat) (exponent : Int) : Option Binary64 :=
  (Binary64.ofInt significand).bind fun x ↦
    (scaled 4 x exponent).map fun y ↦ { y with negative := negative }

/-- The power of ten that digits stand for, or the digits behind the first one that takes it beyond
the largest number of 32 bits. -/
def exponentValue (n : Nat) : Bytes → Except Bytes Nat
  | [] => .ok n
  | d :: rest =>
    let next := n * 10 + digitValue d
    if next < Nat.pow 2 31 then exponentValue next rest else .error rest

/-- Reads a power of ten behind its mark and finishes the number. -/
def scanExponent (negative : Bool) (significand : Nat) (exponent : Int) (s : Bytes) :
    Scan Number :=
  let (down, s) := match s with
    | 43 :: r => (false, r)
    | 45 :: r => (true, r)
    | r => (false, r)
  match s with
  | [] => .error (.fault .endInValue [])
  | c :: r =>
    if !isDigit c then .error (.fault .invalidNumber r)
    else
      let (digits, rest) := s.span isDigit
      match exponentValue 0 digits with
      | .error behind =>
        if significand != 0 && !down then .error (.fault .numberOutOfRange (behind ++ rest))
        else .ok (.real (.zero negative), rest)
      | .ok n =>
        match realOf negative significand (exponent + if down then -(n : Int) else n) with
        | some x => .ok (.real x, rest)
        | none => .error (.fault .numberOutOfRange rest)

/-- Finishes a number that is not whole, behind its digits. -/
def scanScale (negative : Bool) (significand : Nat) (exponent : Int) (s : Bytes) : Scan Number :=
  match s with
  | 69 :: r => scanExponent negative significand exponent r
  | 101 :: r => scanExponent negative significand exponent r
  | s =>
    match realOf negative significand exponent with
    | some x => .ok (.real x, s)
    | none => .error (.fault .numberOutOfRange s)

/-- Reads the digits behind a point and finishes the number. -/
def scanFraction (negative : Bool) (before : Significand) (s : Bytes) : Scan Number :=
  let (digits, rest) := s.span isDigit
  if digits.isEmpty then
    match rest with
    | [] => .error (.fault .endInValue [])
    | _ :: _ => .error (.atNext .invalidNumber rest)
  else
    let all := Significand.absorb before.value digits
    scanScale negative all.value
      ((before.omitted : Int) - ((digits.length : Int) - all.omitted)) rest

/-- The number written by digits alone. Zero with a sign, and what does not fit into 64 bits with
the sign, is no whole number. -/
def wholeOrReal (negative : Bool) (significand : Nat) : Option Number :=
  if !negative then some (.whole significand)
  else if 0 < significand ∧ significand ≤ Nat.pow 2 63 then some (.whole (-(significand : Int)))
  else (realOf true significand 0).map .real

/-- Finishes a number behind the digits before its point. -/
def scanTail (negative : Bool) (before : Significand) (s : Bytes) : Scan Number :=
  match s with
  | 46 :: r => scanFraction negative before r
  | s =>
    if before.omitted = 0 ∧ s.head? ≠ some 69 ∧ s.head? ≠ some 101 then
      match wholeOrReal negative before.value with
      | some n => .ok (n, s)
      | none => .error (.fault .numberOutOfRange s)
    else scanScale negative before.value before.omitted s

/-- Reads a number behind its sign. -/
def scanNumber (negative : Bool) (s : Bytes) : Scan Number :=
  match s with
  | [] => .error (.fault .endInValue [])
  | 48 :: r =>
    if (r.head?.map isDigit).getD false then .error (.atNext .invalidNumber r)
    else scanTail negative ⟨0, 0⟩ r
  | c :: r =>
    if isDigit c then
      let (digits, rest) := s.span isDigit
      scanTail negative (Significand.absorb 0 digits) rest
    else .error (.fault .invalidNumber r)

end QueryWatch.Json
