import QueryWatch.Operator.Render
import QueryWatch.Proofs.Text.Words

/-!
A text on one line. The line is made of the words of the text, cut or not, so that it is a line of
words in both cases (`exists_intercalate_oneLine`), and its own words on one line are the line again
(`singleLine_oneLine`). It is no longer than the width, unless the three dots alone are
(`length_oneLine_le`). A line that is cut differs from the one that is not, except where that one is
just three dots, and they are too long (`oneLine_eq_singleLine_iff`). With that a line that is put
on one line again stays as it is (`stable_oneLine`).
-/

set_option autoImplicit false

namespace QueryWatch.Render

open Text

variable (text : String) (width : Nat)

theorem singleLine_eq (s : List Char) :
    singleLine s = [' '].intercalate ((s.splitOnP isBlank).filter (!·.isEmpty)) := by
  rw [singleLine, words_eq]

theorem toList_oneLine_of_le (h : (singleLine text.toList).length ≤ width) :
    (oneLine text width).toList = singleLine text.toList := by
  rw [oneLine, if_pos h, String.toList_ofList]

theorem toList_oneLine_of_lt (h : width < (singleLine text.toList).length) :
    (oneLine text width).toList =
      (singleLine text.toList).take (width - 3) ++ ['.', '.', '.'] := by
  rw [oneLine, if_neg (Nat.not_le.mpr h), String.toList_ofList]

theorem exists_intercalate_oneLine :
    ∃ ws, (∀ w ∈ ws, IsWord w) ∧ (oneLine text width).toList = [' '].intercalate ws := by
  have hwords : ∀ w ∈ words text.toList, IsWord w := fun _ ↦ isWord_of_mem_words
  by_cases hle : (singleLine text.toList).length ≤ width
  · exact ⟨words text.toList, hwords, toList_oneLine_of_le text width hle⟩
  · have hdot : isBlank '.' = false := rfl
    have hdots : IsWord ['.', '.', '.'] := ⟨List.cons_ne_nil _ _, by simp [hdot]⟩
    rw [toList_oneLine_of_lt text width (Nat.not_le.mp hle)]
    exact exists_intercalate_eq_take_append hwords hdots (width - 3)

theorem singleLine_oneLine :
    singleLine (oneLine text width).toList = (oneLine text width).toList := by
  obtain ⟨ws, hws, hline⟩ := exists_intercalate_oneLine text width
  rw [hline, singleLine, words_intercalate hws]

theorem isSpaced_oneLine : IsSpaced (oneLine text width).toList := by
  obtain ⟨ws, hws, hline⟩ := exists_intercalate_oneLine text width
  exact hline ▸ isSpaced_intercalate hws

theorem length_oneLine_le : (oneLine text width).toList.length ≤ max width 3 := by
  by_cases hle : (singleLine text.toList).length ≤ width
  · rw [toList_oneLine_of_le text width hle]
    exact Nat.le_trans hle (Nat.le_max_left ..)
  · rw [toList_oneLine_of_lt text width (Nat.not_le.mp hle), List.length_append, List.length_take]
    change min (width - 3) (singleLine text.toList).length + 3 ≤ max width 3
    omega

/-- If not even the three dots have room, nothing but them is shown of what is too long. -/
theorem toList_oneLine_of_lt_three (hwidth : width < 3)
    (h : width < (singleLine text.toList).length) :
    (oneLine text width).toList = ['.', '.', '.'] := by
  rw [toList_oneLine_of_lt text width h, Nat.sub_eq_zero_of_le (Nat.le_of_lt hwidth),
    List.take_zero, List.nil_append]

theorem oneLine_eq_singleLine_iff :
    (oneLine text width).toList = singleLine text.toList ↔
      (singleLine text.toList).length ≤ width ∨ singleLine text.toList = ['.', '.', '.'] := by
  by_cases hle : (singleLine text.toList).length ≤ width
  · simp only [toList_oneLine_of_le text width hle, hle, true_or]
  · have hlt := Nat.not_le.mp hle
    rw [or_iff_right hle]
    by_cases hwidth : width < 3
    · rw [toList_oneLine_of_lt_three text width hwidth hlt]
      exact eq_comm
    · -- There is room for the dots, so the line that is cut has another length.
      have hshort : (oneLine text width).toList.length ≤ width :=
        (length_oneLine_le text width).trans (Nat.max_le.mpr ⟨Nat.le_refl _, Nat.not_lt.mp hwidth⟩)
      refine iff_of_false (fun heq ↦ ?_) fun heq ↦ ?_
      · rw [heq] at hshort
        exact hle hshort
      · rw [heq] at hlt
        exact hwidth hlt

theorem oneLine_oneLine : oneLine (oneLine text width) width = oneLine text width := by
  rw [← String.toList_inj]
  have hsame := singleLine_oneLine text width
  by_cases hle : (oneLine text width).toList.length ≤ width
  · rw [toList_oneLine_of_le _ width (hsame.symm ▸ hle), hsame]
  · have hlt : width < (singleLine text.toList).length := by
      by_contra hfits
      rw [toList_oneLine_of_le text width (Nat.not_lt.mp hfits)] at hle
      exact hfits (Nat.not_le.mp hle)
    have hwidth : width < 3 := by
      have hbound := length_oneLine_le text width
      omega
    rw [toList_oneLine_of_lt_three text width hwidth hlt]
    refine toList_oneLine_of_lt_three _ width hwidth ?_
    rw [hsame]
    exact Nat.not_le.mp hle

/-- A text on one line has no blank at either end, no other blank than the space, and no two spaces
in a row; it is no longer than the width, or than three dots. It is made of all that stands between
the blanks of the text, with single spaces in between, just if that has room or is three dots
itself. If it has no room, the line is as much of it as leaves room for three dots, and these. A
line that is put on one line again stays as it is. -/
theorem stable_oneLine :
    let whole := [' '].intercalate ((text.toList.splitOnP isBlank).filter (!·.isEmpty))
    let shown := oneLine text width
    IsTrimmed shown ∧
      (∀ c ∈ shown.toList, isBlank c = true → c = ' ') ∧
      ¬[' ', ' '] <:+: shown.toList ∧
      shown.toList.length ≤ max width 3 ∧
      (shown.toList = whole ↔ whole.length ≤ width ∨ whole = ['.', '.', '.']) ∧
      (width < whole.length → shown.toList = whole.take (width - 3) ++ ['.', '.', '.']) ∧
      oneLine shown width = shown := by
  intro whole shown
  have hwhole : whole = singleLine text.toList := (singleLine_eq text.toList).symm
  have hspaced := isSpaced_oneLine text width
  rw [hwhole]
  exact ⟨⟨hspaced.head?, hspaced.getLast?⟩, hspaced.eq_space, hspaced.single,
    length_oneLine_le text width, oneLine_eq_singleLine_iff text width,
    toList_oneLine_of_lt text width, oneLine_oneLine text width⟩

/-- Three dots are shown as they are, though they have more characters than the width. -/
theorem not_forall_oneLine_eq_iff_length_le :
    ¬∀ (text : String) (width : Nat),
      let whole := [' '].intercalate ((text.toList.splitOnP isBlank).filter (!·.isEmpty))
      (oneLine text width).toList = whole ↔ whole.length ≤ width := by
  intro h
  have hshown : (oneLine "..." 2).toList =
      [' '].intercalate (("...".toList.splitOnP isBlank).filter (!·.isEmpty)) := by decide
  exact absurd ((h "..." 2).mp hshown) (by decide)

end QueryWatch.Render
