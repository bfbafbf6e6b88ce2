import Mathlib.Data.Nat.Log
import QueryWatch.Decimal.Binary64

/-!
Whole numbers in the format binary64. A whole number is rounded to zero only if it is zero, so its
sign is kept (`isBelowZero_of_ofInt`), and one of 64 bits is never too large (`isSome_ofInt`).
-/

set_option autoImplicit false

namespace QueryWatch.Decimal.Binary64

theorem div_le_roundHalfEven (num den : Nat) : num / den ≤ roundHalfEven num den := by
  unfold roundHalfEven
  dsimp only
  split
  · exact Nat.le_refl _
  · split
    · exact Nat.le_succ _
    · exact Nat.le_add_right _ _

theorem toNat_exponentFor_le (num : Nat) : (exponentFor num 1).toNat ≤ num.log2 := by
  have hone : Nat.log2 1 = 0 := by decide
  unfold exponentFor minExponent
  dsimp only
  rw [hone]
  split <;> omega

/-- Rounding makes no zero of a whole number. -/
theorem mantissa_ne_zero_of_ofRatio {negative : Bool} {num : Nat} {x : Binary64} (hnum : num ≠ 0)
    (h : ofRatio negative num 1 = some x) : x.mantissa ≠ 0 ∧ x.negative = negative := by
  have hscaled : 2 ^ (exponentFor num 1).toNat ≤ num :=
    (Nat.pow_le_pow_right (by omega) (toNat_exponentFor_le num)).trans (Nat.log2_self_le hnum)
  simp only [ofRatio, if_neg hnum, Option.ite_none_right_eq_some, Option.some.injEq] at h
  obtain ⟨-, rfl⟩ := h
  split
  · exact ⟨by dsimp only; decide, rfl⟩
  · have hwhole : 1 ≤ (unscale num 1 (exponentFor num 1)).1 /
        (unscale num 1 (exponentFor num 1)).2 := by
      simp only [unscale, Nat.one_mul]
      refine (Nat.one_le_div_iff (Nat.pow_pos (by omega))).mpr (hscaled.trans ?_)
      exact Nat.le_mul_of_pos_right num (Nat.pow_pos (by omega))
    have hround := div_le_roundHalfEven (unscale num 1 (exponentFor num 1)).1
      (unscale num 1 (exponentFor num 1)).2
    exact ⟨by dsimp only; omega, rfl⟩

/-- A whole number keeps its sign. -/
theorem isBelowZero_of_ofInt {i : Int} {x : Binary64} (h : ofInt i = some x) :
    x.isBelowZero = true ↔ i < 0 := by
  unfold ofInt at h
  by_cases hi : i = 0
  · subst hi
    cases h
    decide
  · obtain ⟨hmantissa, hnegative⟩ := mantissa_ne_zero_of_ofRatio (Int.natAbs_ne_zero.mpr hi) h
    simp [isBelowZero, hmantissa, hnegative]

/-- No number of 64 bits is too large. -/
theorem isSome_ofInt {i : Int} (h : i.natAbs < UInt64.size) : (ofInt i).isSome := by
  unfold ofInt ofRatio
  split
  · rfl
  next hi =>
    have hlog : i.natAbs.log2 < 64 := (Nat.log2_lt hi).mpr h
    have hexponent : exponentFor i.natAbs 1 ≤ 64 := by
      have := toNat_exponentFor_le i.natAbs
      omega
    dsimp only
    rw [if_pos]
    · rfl
    · unfold maxExponent
      split <;> dsimp only <;> omega

end QueryWatch.Decimal.Binary64
