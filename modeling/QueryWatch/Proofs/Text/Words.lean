import QueryWatch.Proofs.Text.Blank

/-!
The words of a text. They are what stands between the blanks of the text, as far as there is
something (`words_eq`), so that each of them is a word (`isWord_of_mem_words`). Words on one line,
with a space between any two of them, are the words of that line again (`words_intercalate`). A
blank on such a line has a word on either side (`notMem_splitOnP_of_intercalate`), and so the line
has no blank at either end, no other blank than the space, and no two spaces in a row
(`isSpaced_intercalate`). If such a line is cut anywhere, and something that is a word is put behind
it, it is again a line of words (`exists_intercalate_eq_take_append`).
-/

set_option autoImplicit false

namespace QueryWatch.Text

variable {s w word : List Char} {ws : List (List Char)}

/-- Something without a blank in it. -/
structure IsWord (w : List Char) : Prop where
  ne_nil : w ≠ []
  isBlank_eq_false : ∀ c ∈ w, isBlank c = false

/-! ### Words of a text -/

theorem wordsOnto_eq (done : List (List Char)) (word s : List Char) :
    wordsOnto done word s =
      ((s.splitOnPPrepend isBlank word).filter (!·.isEmpty)).reverse ++ done := by
  induction s generalizing done word with
  | nil => cases word <;> simp [wordsOnto]
  | cons c s ih =>
    rw [wordsOnto, List.splitOnPPrepend_cons_eq_if]
    by_cases hc : isBlank c = true
    · rw [if_pos hc, if_pos hc, ih]
      cases word <;> simp
    · rw [if_neg hc, if_neg hc, ih]

/-- The words are what stands between the blanks, where there is something. -/
theorem words_eq (s : List Char) : words s = (s.splitOnP isBlank).filter (!·.isEmpty) := by
  rw [words, wordsOnto_eq, List.append_nil, List.reverse_reverse]
  rfl

theorem isBlank_of_mem_splitOnP (hw : w ∈ s.splitOnP isBlank) : ∀ c ∈ w, isBlank c = false := by
  induction s generalizing w with
  | nil =>
    rw [List.splitOnP_nil, List.mem_singleton] at hw
    simp [hw]
  | cons c s ih =>
    rw [List.splitOnP_cons_eq_if_modifyHead] at hw
    by_cases hc : isBlank c = true
    · rw [if_pos hc, List.mem_cons] at hw
      rcases hw with rfl | hw
      · simp
      · exact ih hw
    · rw [if_neg hc] at hw
      cases hs : s.splitOnP isBlank with
      | nil => exact absurd hs (List.splitOnP_ne_nil isBlank s)
      | cons first rest =>
        rw [hs] at hw ih
        -- The character goes to the first part.
        rcases List.mem_cons.mp hw with rfl | hw
        · have hfirst := ih List.mem_cons_self
          exact List.forall_mem_cons.mpr ⟨Bool.not_eq_true _ ▸ hc, hfirst⟩
        · exact ih (List.mem_cons_of_mem first hw)

theorem isWord_of_mem_words (hw : w ∈ words s) : IsWord w := by
  rw [words_eq, List.mem_filter] at hw
  exact ⟨by simpa using hw.2, isBlank_of_mem_splitOnP hw.1⟩

/-! ### Words on a line -/

/-- A line is split into its words. -/
theorem splitOnP_intercalate (h : ∀ w ∈ ws, IsWord w) (hne : ws ≠ []) :
    ([' '].intercalate ws).splitOnP isBlank = ws := by
  induction ws with
  | nil => exact absurd rfl hne
  | cons w ws ih =>
    obtain ⟨hw, hws⟩ := List.forall_mem_cons.mp h
    cases ws with
    | nil =>
      rw [List.intercalate_singleton]
      exact List.splitOnP_eq_singleton hw.isBlank_eq_false
    | cons w' ws =>
      rw [List.intercalate_cons_cons, List.append_assoc]
      exact (List.splitOnP_append_cons_of_forall_mem hw.isBlank_eq_false ' ' rfl _).trans
        (congrArg (w :: ·) (ih hws (List.cons_ne_nil _ _)))

theorem words_intercalate (h : ∀ w ∈ ws, IsWord w) : words ([' '].intercalate ws) = ws := by
  by_cases hne : ws = []
  · rw [hne]
    rfl
  · rw [words_eq, splitOnP_intercalate h hne, List.filter_eq_self]
    exact fun w hw ↦ by simpa using (h w hw).ne_nil

/-- On both sides of a blank there are words only. -/
theorem notMem_splitOnP_of_intercalate (h : ∀ w ∈ ws, IsWord w) (before : List Char) {c : Char}
    (after : List Char) (hs : [' '].intercalate ws = before ++ c :: after)
    (hc : isBlank c = true) :
    [] ∉ before.splitOnP isBlank ∧ [] ∉ after.splitOnP isBlank := by
  have hne : ws ≠ [] := by
    rintro rfl
    exact List.append_ne_nil_of_right_ne_nil before (List.cons_ne_nil c after) hs.symm
  have hws := splitOnP_intercalate h hne
  rw [hs, List.splitOnP_append_cons before after hc] at hws
  have hword : [] ∉ ws := fun hmem ↦ (h [] hmem).ne_nil rfl
  rw [← hws, List.mem_append, not_or] at hword
  exact hword

theorem eq_space_of_mem_intercalate (h : ∀ w ∈ ws, IsWord w) {c : Char}
    (hc : c ∈ [' '].intercalate ws) (hblank : isBlank c = true) : c = ' ' := by
  induction ws with
  | nil => cases hc
  | cons w ws ih =>
    obtain ⟨hw, hws⟩ := List.forall_mem_cons.mp h
    have hnot : c ∉ w := fun hmem ↦ by simp [hw.isBlank_eq_false c hmem] at hblank
    cases ws with
    | nil =>
      rw [List.intercalate_singleton] at hc
      exact absurd hc hnot
    | cons w' ws =>
      rw [List.intercalate_cons_cons, List.append_assoc, List.mem_append] at hc
      rcases List.mem_cons.mp (hc.resolve_left hnot) with rfl | hc
      · rfl
      · exact ih hws hc

/-- Words with single spaces between them, and nothing else. -/
structure IsSpaced (s : List Char) : Prop where
  head? : ∀ c ∈ s.head?, isBlank c = false
  getLast? : ∀ c ∈ s.getLast?, isBlank c = false
  eq_space : ∀ c ∈ s, isBlank c = true → c = ' '
  single : ¬[' ', ' '] <:+: s

theorem isSpaced_intercalate (h : ∀ w ∈ ws, IsWord w) : IsSpaced ([' '].intercalate ws) where
  head? c hc := by
    obtain ⟨after, hs⟩ := List.head?_eq_some_iff.mp hc
    by_contra hblank
    have hwords := notMem_splitOnP_of_intercalate h [] after hs (by simpa using hblank)
    exact hwords.1 List.mem_cons_self
  getLast? c hc := by
    obtain ⟨before, hs⟩ := List.getLast?_eq_some_iff.mp hc
    by_contra hblank
    have hwords := notMem_splitOnP_of_intercalate h before [] hs (by simpa using hblank)
    exact hwords.2 List.mem_cons_self
  eq_space c hc hblank := eq_space_of_mem_intercalate h hc hblank
  single := by
    rintro ⟨before, after, hs⟩
    rw [List.append_assoc] at hs
    have hwords := notMem_splitOnP_of_intercalate h before (' ' :: after) hs.symm rfl
    refine hwords.2 ?_
    rw [List.splitOnP_cons_eq_if_modifyHead, if_pos (by decide)]
    exact List.mem_cons_self

/-- A line of words that is cut, with a word put behind it, is a line of words. -/
theorem exists_intercalate_eq_take_append (h : ∀ w ∈ ws, IsWord w) (hword : IsWord word) (n : Nat) :
    ∃ ws', (∀ w ∈ ws', IsWord w) ∧
      ([' '].intercalate ws).take n ++ word = [' '].intercalate ws' := by
  induction ws generalizing n with
  | nil => exact ⟨[word], by simpa using hword, by simp⟩
  | cons w ws ih =>
    obtain ⟨hw, hws⟩ := List.forall_mem_cons.mp h
    have hcut : IsWord (w.take n ++ word) :=
      ⟨List.append_ne_nil_of_right_ne_nil _ hword.ne_nil, fun c hc ↦
        (List.mem_append.mp hc).elim (fun hc ↦ hw.isBlank_eq_false c (List.mem_of_mem_take hc))
          (hword.isBlank_eq_false c)⟩
    by_cases hwhole : n ≤ w.length ∨ ws = []
    · -- The cut is in the first word, or it is the only one.
      refine ⟨[w.take n ++ word], by simpa using hcut, ?_⟩
      rw [List.intercalate_singleton]
      rcases hwhole with hle | rfl
      · cases ws with
        | nil => rw [List.intercalate_singleton]
        | cons w' ws =>
          rw [List.intercalate_cons_cons, List.append_assoc, List.take_append_of_le_length hle]
      · rw [List.intercalate_singleton]
    · obtain ⟨hlt, hne⟩ := not_or.mp hwhole
      obtain ⟨m, rfl⟩ : ∃ m, n = (w ++ [' ']).length + m :=
        Nat.exists_eq_add_of_le (by rw [List.length_append, List.length_singleton]; omega)
      obtain ⟨ws', hws', hrest⟩ := ih hws m
      have hne' : ws' ≠ [] := by
        rintro rfl
        exact List.append_ne_nil_of_right_ne_nil _ hword.ne_nil hrest
      refine ⟨w :: ws', List.forall_mem_cons.mpr ⟨hw, hws'⟩, ?_⟩
      rw [List.intercalate_cons_of_ne_nil hne, List.intercalate_cons_of_ne_nil hne',
        List.take_length_add_append, List.append_assoc, hrest]

end QueryWatch.Text
