import Mathlib.Data.List.TakeWhile
import QueryWatch.Proofs.Text.Search

/-!
Lower case of a text inside another one. `lowerWithin` is the lower-case form of a piece between what
stands before and after it, and a text in lower case is made of those of its pieces
(`lowerWithin_append`). What stands around a piece matters for a capital sigma only, and only where
a word might end at it: `IsOpenSigma` says when the characters of the piece on both sides of the
sigma leave that open. A piece with no such sigma (`IsSettled`) has the same lower-case form wherever
it stands (`IsSettled.lowerWithin_eq`), so the form of the piece is found in that of the text
(`IsSettled.lowerCase_infix`). A piece with one has another form in front of or behind a single
letter (`exists_lowerCase_not_infix`).
-/

set_option autoImplicit false

namespace QueryWatch.Text

/-! ### Pieces -/

/-- The lower-case form of a piece of a text between what stands `before` it, nearest first, and
`after` it. -/
def lowerWithin (before : List Char) : List Char → List Char → List Char
  | [], _ => []
  | c :: rest, after =>
    lowerBetween before c (rest ++ after) ++ lowerWithin (c :: before) rest after

theorem lowerOnto_eq_lowerWithin (before text : List Char) :
    lowerOnto before [] text = lowerWithin before text [] := by
  induction text generalizing before with
  | nil => rfl
  | cons c rest ih => rw [lowerOnto_cons, lowerWithin, ih, List.append_nil]

theorem lowerCase_eq_lowerWithin (text : List Char) : lowerCase text = lowerWithin [] text [] :=
  lowerOnto_eq_lowerWithin [] text

/-- A text is lowered piece by piece. -/
theorem lowerWithin_append (before first second after : List Char) :
    lowerWithin before (first ++ second) after =
      lowerWithin before first (second ++ after) ++
        lowerWithin (first.reverse ++ before) second after := by
  induction first generalizing before with
  | nil => rfl
  | cons c rest ih =>
    rw [List.cons_append, lowerWithin, lowerWithin, ih, List.append_assoc, List.append_assoc,
      List.reverse_cons, List.append_assoc]
    rfl

/-- Of a text in three pieces the middle one is lowered between the others. -/
theorem lowerCase_append_append (first piece last : List Char) :
    lowerCase (first ++ piece ++ last) =
      lowerWithin [] first (piece ++ last) ++ lowerWithin first.reverse piece last ++
        lowerWithin (piece.reverse ++ first.reverse) last [] := by
  simp only [lowerCase_eq_lowerWithin, lowerWithin_append, List.append_nil, List.append_assoc]

/-- How many characters a piece has in lower case does not depend on what is around it. -/
theorem length_lowerWithin (before piece after : List Char) :
    (lowerWithin before piece after).length = (lowerCase piece).length := by
  have hbetween : ∀ (before before' after after' : List Char) (c : Char),
      (lowerBetween before c after).length = (lowerBetween before' c after').length := by
    intro before before' after after' c
    unfold lowerBetween
    split
    · split <;> split <;> rfl
    · rfl
  have hwithin : ∀ (before before' after after' : List Char),
      (lowerWithin before piece after).length = (lowerWithin before' piece after').length := by
    induction piece with
    | nil => exact fun _ _ _ _ ↦ rfl
    | cons c rest ih =>
      intro before before' after after'
      rw [lowerWithin, lowerWithin, List.length_append, List.length_append,
        hbetween before before' _ (rest ++ after'), ih]
  rw [lowerCase_eq_lowerWithin]
  exact hwithin before [] after []

/-! ### Where words end -/

/-- A search for letters passes over all of a text. -/
def IsPassedOver (s : List Char) : Prop := ∀ c ∈ s, isCaseIgnorable c = true

instance (s : List Char) : Decidable (IsPassedOver s) :=
  inferInstanceAs (Decidable (∀ c ∈ s, isCaseIgnorable c = true))

theorem meetsCased_append_of_isPassedOver {s : List Char} (h : IsPassedOver s) (t : List Char) :
    meetsCased (s ++ t) = meetsCased t := by
  unfold meetsCased
  rw [List.dropWhile_append_of_pos h]

theorem meetsCased_eq_false_of_isPassedOver {s : List Char} (h : IsPassedOver s) :
    meetsCased s = false := by
  have hall := meetsCased_append_of_isPassedOver h []
  rw [List.append_nil] at hall
  exact hall

/-- A search for letters that does not pass over all of a text ends in it. -/
theorem meetsCased_append_of_not_isPassedOver {s : List Char} (h : ¬IsPassedOver s)
    (t : List Char) : meetsCased (s ++ t) = meetsCased s := by
  have hrest : s.dropWhile isCaseIgnorable ≠ [] := by
    rw [ne_eq, List.dropWhile_eq_nil_iff]
    exact h
  unfold meetsCased
  rw [List.dropWhile_append]
  cases hfound : s.dropWhile isCaseIgnorable with
  | nil => exact absurd hfound hrest
  | cons c rest => rfl

/-- What stands around a text decides whether a word ends at a capital sigma in it, between those
`before` it in the text, nearest first, and those `after` it: the word begins in the text and may go
on behind it, or it ends in the text and may have begun before it. -/
def IsOpenSigma (before after : List Char) : Prop :=
  meetsCased before = true ∧ IsPassedOver after ∨ IsPassedOver before ∧ meetsCased after = false

/-- No capital sigma in a text has a lower-case form that what stands around the text decides. -/
def IsSettled (text : List Char) : Prop :=
  ∀ before after, text = before ++ 'Σ' :: after → ¬IsOpenSigma before.reverse after

/-- A text without capital sigmas is settled. -/
theorem isSettled_of_not_mem {text : List Char} (h : 'Σ' ∉ text) : IsSettled text := by
  rintro before after rfl
  exact absurd (List.mem_append_right _ List.mem_cons_self) h

/-! ### Settled pieces -/

/-- A character that is no capital sigma whose form is open is lowered alike wherever the text
stands. -/
theorem lowerBetween_eq_of_not_isOpenSigma {before after : List Char} {c : Char}
    (h : c = 'Σ' → ¬IsOpenSigma before after) (outer behind : List Char) :
    lowerBetween (before ++ outer) c (after ++ behind) = lowerBetween before c after := by
  unfold lowerBetween
  by_cases hsigma : c = 'Σ'
  · have hopen := h hsigma
    rw [if_pos hsigma, if_pos hsigma]
    unfold IsOpenSigma at hopen
    by_cases hbefore : IsPassedOver before
    · -- The word must go on in the text behind the sigma.
      have hnot : ¬IsPassedOver after := by
        intro hafter
        exact hopen (Or.inr ⟨hbefore, meetsCased_eq_false_of_isPassedOver hafter⟩)
      have hafter : meetsCased after = true := by
        by_contra hne
        exact hopen (Or.inr ⟨hbefore, Bool.not_eq_true _ ▸ hne⟩)
      rw [meetsCased_append_of_not_isPassedOver hnot, hafter]
      simp
    · rw [meetsCased_append_of_not_isPassedOver hbefore]
      by_cases hafter : IsPassedOver after
      · have hnone : meetsCased before = false := by
          by_contra hne
          exact hopen (Or.inl ⟨Bool.not_eq_false _ ▸ hne, hafter⟩)
        rw [hnone]
        rfl
      · rw [meetsCased_append_of_not_isPassedOver hafter]
  · rw [if_neg hsigma, if_neg hsigma]

/-- A settled text is lowered alike wherever it stands. -/
theorem IsSettled.lowerWithin_eq {text : List Char} (h : IsSettled text)
    (before after : List Char) : lowerWithin before text after = lowerCase text := by
  have hrest : ∀ done rest, text = done ++ rest →
      lowerWithin (done.reverse ++ before) rest after = lowerWithin done.reverse rest [] := by
    intro done rest
    induction rest generalizing done with
    | nil => exact fun _ ↦ rfl
    | cons c rest ih =>
      intro htext
      have hclosed : c = 'Σ' → ¬IsOpenSigma done.reverse rest := by
        rintro rfl
        exact h done rest htext
      have hnext := ih (done ++ [c]) (by rw [htext, List.append_assoc]; rfl)
      rw [List.reverse_append, List.reverse_singleton, List.singleton_append] at hnext
      rw [lowerWithin, lowerWithin, List.append_nil, lowerBetween_eq_of_not_isOpenSigma hclosed]
      exact congrArg _ hnext
  rw [lowerCase_eq_lowerWithin]
  exact hrest [] text rfl

/-- Where a settled text stands, its lower-case form stands in that of the whole. -/
theorem IsSettled.lowerCase_infix {piece text : List Char} (h : IsSettled piece)
    (hpiece : piece <:+: text) : lowerCase piece <:+: lowerCase text := by
  obtain ⟨first, last, rfl⟩ := hpiece
  rw [lowerCase_append_append, h.lowerWithin_eq]
  exact List.infix_append ..

/-! ### Other pieces -/

/-- If a capital sigma in a piece is lowered otherwise somewhere, so is the piece. -/
theorem lowerWithin_ne_of_sigma {before after outer behind : List Char}
    (h : lowerBetween (before.reverse ++ outer) 'Σ' (after ++ behind) ≠
      lowerBetween before.reverse 'Σ' after) :
    lowerWithin outer (before ++ 'Σ' :: after) behind ≠ lowerCase (before ++ 'Σ' :: after) := by
  have hsplit : ∀ outer behind : List Char,
      lowerWithin outer (before ++ 'Σ' :: after) behind =
        lowerWithin outer before ('Σ' :: after ++ behind) ++
          (lowerBetween (before.reverse ++ outer) 'Σ' (after ++ behind) ++
            lowerWithin ('Σ' :: (before.reverse ++ outer)) after behind) :=
    fun outer behind ↦ lowerWithin_append outer before ('Σ' :: after) behind
  intro heq
  rw [lowerCase_eq_lowerWithin, hsplit, hsplit] at heq
  simp only [List.append_nil] at heq
  have hlength : (lowerWithin outer before ('Σ' :: after ++ behind)).length =
      (lowerWithin [] before ('Σ' :: after)).length := by
    rw [length_lowerWithin, length_lowerWithin]
  obtain ⟨-, hrest⟩ := List.append_inj heq hlength
  have hlengths : (lowerWithin ('Σ' :: (before.reverse ++ outer)) after behind).length =
      (lowerWithin ('Σ' :: before.reverse) after []).length := by
    rw [length_lowerWithin, length_lowerWithin]
  exact h (List.append_inj' hrest hlengths).1

/-- There is a letter whose lower-case form is another character than a given one. -/
theorem exists_letter_ne (d : Char) :
    ∃ c l, c ≠ 'Σ' ∧ meetsCased [c] = true ∧ lowerChar c = [l] ∧ l ≠ d := by
  by_cases hd : d = 'a'
  · exact ⟨'B', 'b', by decide, by decide +kernel, by decide +kernel, by rw [hd]; decide⟩
  · exact ⟨'A', 'a', by decide, by decide +kernel, by decide +kernel, Ne.symm hd⟩

theorem lowerWithin_singleton {c l : Char} (hc : c ≠ 'Σ') (hl : lowerChar c = [l])
    (before after : List Char) : lowerWithin before [c] after = [l] := by
  rw [lowerWithin, lowerWithin, List.append_nil, lowerBetween, if_neg hc, hl]

/-- A text that is not settled has another lower-case form in front of a letter or behind one, so
that its own is not found there. -/
theorem exists_lowerCase_not_infix {piece : List Char} (h : ¬IsSettled piece) :
    ∃ text, piece <:+: text ∧ ¬lowerCase piece <:+: lowerCase text := by
  simp only [IsSettled, not_forall, not_not] at h
  obtain ⟨before, after, rfl, hopen⟩ := h
  have hne : lowerCase (before ++ 'Σ' :: after) ≠ [] := by
    rw [ne_eq, lowerCase_eq_nil_iff]
    simp
  generalize hpiece : before ++ 'Σ' :: after = piece at hne ⊢
  rcases hopen with ⟨hbefore, hafter⟩ | ⟨hbefore, hafter⟩
  · -- The word ends with the piece, but goes on when a letter follows.
    obtain ⟨c, l, hc, hcased, hl, hlast⟩ := exists_letter_ne ((lowerCase piece).getLast hne)
    refine ⟨piece ++ [c], List.infix_append' [] piece [c], ?_⟩
    have htext : lowerCase (piece ++ [c]) = lowerWithin [] piece [c] ++ [l] := by
      rw [lowerCase_eq_lowerWithin, lowerWithin_append, lowerWithin_singleton hc hl]
      rfl
    have hother : lowerWithin [] piece [c] ≠ lowerCase piece := by
      rw [← hpiece]
      refine lowerWithin_ne_of_sigma ?_
      simp [lowerBetween, hbefore, meetsCased_append_of_isPassedOver hafter, hcased,
        meetsCased_eq_false_of_isPassedOver hafter]
    rw [htext, List.infix_concat_iff, List.suffix_concat_iff]
    rintro ((hnil | ⟨rest, hrest, -⟩) | hpart)
    · exact hne hnil
    · exact hlast (by simp [hrest])
    · exact hother (hpart.eq_of_length (length_lowerWithin ..).symm).symm
  · -- A word that began before the piece ends with the sigma.
    obtain ⟨c, l, hc, hcased, hl, hfirst⟩ := exists_letter_ne ((lowerCase piece).head hne)
    refine ⟨c :: piece, List.infix_cons (List.infix_refl piece), ?_⟩
    have htext : lowerCase (c :: piece) = l :: lowerWithin [c] piece [] := by
      rw [lowerCase_eq_lowerWithin, ← List.singleton_append, lowerWithin_append,
        lowerWithin_singleton hc hl]
      rfl
    have hother : lowerWithin [c] piece [] ≠ lowerCase piece := by
      rw [← hpiece]
      refine lowerWithin_ne_of_sigma ?_
      simp [lowerBetween, hafter, meetsCased_append_of_isPassedOver hbefore, hcased,
        meetsCased_eq_false_of_isPassedOver hbefore]
    rw [htext, List.infix_cons_iff, List.prefix_cons_iff]
    rintro ((hnil | ⟨rest, hrest, -⟩) | hpart)
    · exact hne hnil
    · exact hfirst (by simp [hrest])
    · exact hother (hpart.eq_of_length (length_lowerWithin ..).symm).symm

end QueryWatch.Text
