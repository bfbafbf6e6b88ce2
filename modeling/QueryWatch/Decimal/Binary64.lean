/-!
Numbers of the format binary64, without infinities: a sign and a whole number below 2^53 times a
power of two. A fraction of whole numbers is rounded to the nearest of them, a tie to the even one
(`ofRatio`), and products and quotients are the rounded exact ones, so all of it is whole-number
arithmetic.
-/

set_option autoImplicit false

namespace QueryWatch.Decimal

/-- The number `mantissa * 2 ^ exponent`, negated if `negative`. In the numbers built here the
mantissa has 53 bits, or fewer with the least exponent. -/
structure Binary64 where
  negative : Bool
  mantissa : Nat
  exponent : Int
  deriving DecidableEq, Repr

namespace Binary64

/-- The exponent of the numbers nearest to zero. -/
def minExponent : Int := -1074

/-- The exponent of the largest numbers. -/
def maxExponent : Int := 971

/-- The two zeros. -/
def zero (negative : Bool) : Binary64 := ⟨negative, 0, minExponent⟩

/-- The whole number nearest to a fraction, the even one of two. -/
def roundHalfEven (num den : Nat) : Nat :=
  let q := num / den
  let r := num % den
  if 2 * r < den then q else if den < 2 * r then q + 1 else q + q % 2

/-- A fraction with its value divided by a power of two. -/
def unscale (num den : Nat) (exponent : Int) : Nat × Nat :=
  (num * Nat.pow 2 (-exponent).toNat, den * Nat.pow 2 exponent.toNat)

/-- The exponent that leaves a fraction a whole part of 53 bits, if that is not below the least
exponent. -/
def exponentFor (num den : Nat) : Int :=
  let e := max minExponent ((num.log2 : Int) - den.log2 - 53)
  let scaled := unscale num den e
  if scaled.1 / scaled.2 < Nat.pow 2 53 then e else e + 1

/-- The number nearest to a fraction, or `none` if that would be beyond the largest one. -/
def ofRatio (negative : Bool) (num den : Nat) : Option Binary64 :=
  if num = 0 then some (zero negative)
  else
    let e := exponentFor num den
    let scaled := unscale num den e
    let m := roundHalfEven scaled.1 scaled.2
    let x : Binary64 := if m = Nat.pow 2 53 then ⟨negative, Nat.pow 2 52, e + 1⟩ else ⟨negative, m, e⟩
    if x.exponent ≤ maxExponent then some x else none

/-- The number nearest to `mantissa * 2 ^ exponent / den`. -/
def ofScaled (negative : Bool) (mantissa den : Nat) (exponent : Int) : Option Binary64 :=
  ofRatio negative (mantissa * Nat.pow 2 exponent.toNat) (den * Nat.pow 2 (-exponent).toNat)

/-- The number nearest to `digits * 10 ^ exponent`. -/
def ofDecimal (negative : Bool) (digits : Nat) (exponent : Int) : Option Binary64 :=
  ofRatio negative (digits * Nat.pow 10 exponent.toNat) (Nat.pow 10 (-exponent).toNat)

/-- The number nearest to a whole number. -/
def ofInt (i : Int) : Option Binary64 := ofRatio (i < 0) i.natAbs 1

/-- The rounded product, or `none` if it is beyond the largest number. -/
def mul (x y : Binary64) : Option Binary64 :=
  ofScaled (x.negative != y.negative) (x.mantissa * y.mantissa) 1 (x.exponent + y.exponent)

/-- The rounded quotient by a number other than zero, or `none` if it is beyond the largest
number. -/
def div (x y : Binary64) : Option Binary64 :=
  ofScaled (x.negative != y.negative) x.mantissa y.mantissa (x.exponent - y.exponent)

def isZero (x : Binary64) : Bool := x.mantissa == 0

/-- Whether a number is less than zero; neither zero is. -/
def isBelowZero (x : Binary64) : Bool := x.negative && x.mantissa != 0

/-- The absolute value, rounded to the nearest whole number, the larger one of two. -/
def roundAbs (x : Binary64) : Nat :=
  let num := x.mantissa * Nat.pow 2 x.exponent.toNat
  let den := Nat.pow 2 (-x.exponent).toNat
  (2 * num + den) / (2 * den)

end Binary64
end QueryWatch.Decimal
