import Mathlib.Data.List.Infix
import QueryWatch.Text.LowerCase

/-!
Searching texts in any case. `occursIn_iff` says that the search finds a text exactly where it
stands as a whole, and `lowerCase_eq_nil_iff` that lower case makes no text of something empty, or
the other way around: each character has a lower-case form of at least one (`lowerBetween_ne_nil`).
-/

set_option autoImplicit false

namespace QueryWatch.Text

/-- The search finds a text that stands in another one as a whole. -/
theorem occursIn_iff {part text : List Char} : occursIn part text = true ↔ part <:+: text := by
  induction text with
  | nil => rw [occursIn, List.isEmpty_iff, List.infix_nil]
  | cons c rest ih =>
    rw [occursIn, Bool.or_eq_true, List.isPrefixOf_iff_prefix, ih, List.infix_cons_iff]

/-! ### Lower case -/

theorem lowerChar_ne_nil (c : Char) : lowerChar c ≠ [] := by
  unfold lowerChar
  dsimp only
  split
  · exact List.cons_ne_nil _ _
  · split
    · exact List.cons_ne_nil _ _
    · split <;> exact List.cons_ne_nil _ _

theorem lowerBetween_ne_nil (before : List Char) (c : Char) (after : List Char) :
    lowerBetween before c after ≠ [] := by
  unfold lowerBetween
  split
  · split <;> exact List.cons_ne_nil _ _
  · exact lowerChar_ne_nil c

/-- What is lowered already stands in front. -/
theorem lowerOnto_eq_append (before lowered text : List Char) :
    lowerOnto before lowered text = lowered.reverse ++ lowerOnto before [] text := by
  induction text generalizing before lowered with
  | nil => simp [lowerOnto]
  | cons c after ih =>
    rw [lowerOnto, lowerOnto, ih, ih (c :: before) ((lowerBetween before c after).reverseAux [])]
    simp [List.reverseAux_eq]

/-- A text is lowered character by character, each between those before and after it. -/
theorem lowerOnto_cons (before : List Char) (c : Char) (after : List Char) :
    lowerOnto before [] (c :: after) =
      lowerBetween before c after ++ lowerOnto (c :: before) [] after := by
  rw [lowerOnto, lowerOnto_eq_append]
  simp [List.reverseAux_eq]

/-- Only an empty text has an empty lower-case form. -/
theorem lowerCase_eq_nil_iff {text : List Char} : lowerCase text = [] ↔ text = [] := by
  unfold lowerCase
  cases text with
  | nil => simp [lowerOnto]
  | cons c after => simp [lowerOnto_cons, lowerBetween_ne_nil]

end QueryWatch.Text
