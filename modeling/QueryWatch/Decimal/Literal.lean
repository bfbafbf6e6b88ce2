import QueryWatch.Decimal.Binary64

/-!
Decimal literals as they are typed by people and programs: an optional sign, digits with at most one
point among them, and an optional power of ten; or a word for infinity or for no number. The value
is the nearest number.
-/

set_option autoImplicit false

namespace QueryWatch.Decimal

/-- What a literal stands for. -/
inductive Literal
  | finite (x : Binary64)
  | infinite (negative : Bool)
  | undefined
  deriving DecidableEq, Repr

/-- The value of digits read behind others of value `n`. -/
def digitsOnto (n : Nat) (digits : List Char) : Nat :=
  digits.foldl (fun n c ↦ 10 * n + (c.toNat - 48)) n

/-- The power of ten behind a literal's digits, if there is nothing else. -/
def powerOfTen? : List Char → Option Int
  | [] => some 0
  | c :: rest =>
    if c = 'e' ∨ c = 'E' then
      let (negative, digits) := match rest with
        | '-' :: r => (true, r)
        | '+' :: r => (false, r)
        | r => (false, r)
      if digits.isEmpty || !digits.all Char.isDigit then none
      else
        let n : Int := digitsOnto 0 digits
        some (if negative then -n else n)
    else none

/-- The nearest number to `digits * 10 ^ exponent`, where a power of ten far outside the format is
not worked out: beyond 10 ^ 400 lies infinity and below 10 ^ -400 zero. -/
def nearest (negative : Bool) (digits : Nat) (count : Nat) (exponent : Int) : Literal :=
  if digits = 0 ∨ exponent + count < -400 then .finite (.zero negative)
  else if 400 < exponent then .infinite negative
  else
    match Binary64.ofDecimal negative digits exponent with
    | some x => .finite x
    | none => .infinite negative

/-- The value of a literal without its sign. -/
def Literal.ofUnsigned? (negative : Bool) (s : List Char) : Option Literal :=
  let word := s.map Char.toLower
  if word = "inf".toList ∨ word = "infinity".toList then some (.infinite negative)
  else if word = "nan".toList then some .undefined
  else
    let (whole, rest) := s.span Char.isDigit
    let (fraction, rest) := match rest with
      | '.' :: r => r.span Char.isDigit
      | r => ([], r)
    if whole.isEmpty && fraction.isEmpty then none
    else
      (powerOfTen? rest).map fun e ↦
        let digits := digitsOnto (digitsOnto 0 whole) fraction
        nearest negative digits (whole.length + fraction.length) (e - fraction.length)

/-- The value of a literal, or `none` for any other text. -/
def Literal.ofText? (s : String) : Option Literal :=
  match s.toList with
  | '-' :: r => ofUnsigned? true r
  | '+' :: r => ofUnsigned? false r
  | r => ofUnsigned? false r

end QueryWatch.Decimal
