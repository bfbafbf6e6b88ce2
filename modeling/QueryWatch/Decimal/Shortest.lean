import QueryWatch.Decimal.Binary64

/-!
The shortest decimal form of a number: the fewest digits that are read back as the same number, and
of several such forms the one nearest to it. If any decimal with a given number of digits is read
back as the number, so is one of its two neighbours among them, so only those two are tried. How
the digits are laid out is a record of its own.
-/

set_option autoImplicit false

namespace QueryWatch.Decimal

/-- The number `digits * 10 ^ exponent`. -/
structure Scientific where
  digits : Nat
  exponent : Int
  deriving DecidableEq, Repr

/-- How many decimal digits a whole number has. -/
def digitCount (n : Nat) : Nat := (Nat.toDigits 10 n).length

/-- The power of ten of the first digit of a fraction above zero. -/
def leadingExponent (num den : Nat) : Int :=
  let e : Int := (digitCount num : Int) - digitCount den
  if den * Nat.pow 10 e.toNat ≤ num * Nat.pow 10 (-e).toNat then e else e - 1

namespace Binary64

/-- The absolute value as a fraction. -/
def ratio (x : Binary64) : Nat × Nat :=
  (x.mantissa * Nat.pow 2 x.exponent.toNat, Nat.pow 2 (-x.exponent).toNat)

/-- Whether a decimal is read as the number, the sign apart. -/
def readsBack (x : Binary64) (s : Scientific) : Bool :=
  ofDecimal x.negative s.digits s.exponent == some x

/-- The nearest decimal with `count` digits that is read back as the number, if there is one. -/
def withDigits (x : Binary64) (count : Nat) : Option Scientific :=
  let (num, den) := x.ratio
  let e := leadingExponent num den - (count : Int) + 1
  let num' := num * Nat.pow 10 (-e).toNat
  let den' := den * Nat.pow 10 e.toNat
  let below : Scientific := ⟨num' / den', e⟩
  let above : Scientific := ⟨num' / den' + 1, e⟩
  let nearerAbove := den' < 2 * (num' % den')
  match x.readsBack below, x.readsBack above with
  | true, true => some (if nearerAbove then above else below)
  | true, false => some below
  | false, true => some above
  | false, false => none

/-- The shortest decimal form of a number other than zero. Seventeen digits always suffice. -/
def shortest (x : Binary64) : Scientific :=
  ((List.range 17).findSome? fun n ↦ x.withDigits (n + 1)).getD ⟨0, 0⟩

end Binary64

/-- How decimal digits are laid out. A number whose first digit stands for a power of ten between
`minPositional` and `maxPositional` is written with a point and at least one digit on either side
of it, any other one with a power of ten behind `mark`; `plus` is the sign of a power not below
zero. -/
structure Layout where
  minPositional : Int
  maxPositional : Int
  mark : String
  plus : String

/-- Digits without the zeros at their end. -/
def trimZeros (digits : List Char) : List Char :=
  (digits.reverse.dropWhile (· == '0')).reverse

/-- The text of digits whose first one stands for the power of ten `lead`. -/
def Layout.digitsText (l : Layout) (digits : List Char) (lead : Int) : List Char :=
  if l.minPositional ≤ lead ∧ lead ≤ l.maxPositional then
    if 0 ≤ lead then
      let whole := lead.toNat + 1
      digits.take whole ++ List.replicate (whole - digits.length) '0' ++ ['.'] ++
        (if digits.length ≤ whole then ['0'] else digits.drop whole)
    else
      ['0', '.'] ++ List.replicate ((-lead).toNat - 1) '0' ++ digits
  else
    let fraction := if digits.length ≤ 1 then [] else '.' :: digits.drop 1
    let sign := if 0 ≤ lead then l.plus.toList else ['-']
    digits.take 1 ++ fraction ++ l.mark.toList ++ sign ++ Nat.toDigits 10 lead.natAbs

/-- The shortest text of a number that is read back as it. -/
def Layout.text (l : Layout) (x : Binary64) : String :=
  let sign := if x.negative then ['-'] else []
  let body :=
    if x.isZero then ['0', '.', '0']
    else
      let s := x.shortest
      let digits := Nat.toDigits 10 s.digits
      l.digitsText (trimZeros digits) (s.exponent + digits.length - 1)
  String.ofList (sign ++ body)

end QueryWatch.Decimal
