import Mathlib.Data.List.DropRight
import QueryWatch.Text.Blank

/-!
Trimming texts. A trimmed text begins and ends with something (`IsTrimmed`); trimming gives such
texts and leaves them as they are (`isTrimmed_trim`, `trim_eq_self_iff`), and it makes no text blank
that was not (`isBlankText_trim`), but leaves nothing of one that was (`trim_eq_empty_iff`). The
digits of a number are never blank (`isBlankText_toString`).
-/

set_option autoImplicit false

namespace QueryWatch.Text

/-- No blank stands at either end of a text. -/
def IsTrimmed (s : String) : Prop :=
  (∀ c ∈ s.toList.head?, isBlank c = false) ∧ ∀ c ∈ s.toList.getLast?, isBlank c = false

theorem dropBlanksEnd_eq_rdropWhile (s : List Char) :
    dropBlanksEnd s = s.rdropWhile isBlank := rfl

theorem toList_trim (s : String) :
    (trim s).toList = (s.toList.dropWhile isBlank).rdropWhile isBlank := by
  rw [trim, String.toList_ofList, dropBlanksEnd_eq_rdropWhile, dropBlanks]

/-- Dropping blanks at the end leaves the first character, if any is left. -/
theorem head?_rdropWhile {s : List Char} {c : Char}
    (hc : c ∈ (s.rdropWhile isBlank).head?) : c ∈ s.head? := by
  obtain ⟨rest, hrest⟩ := List.rdropWhile_prefix isBlank (l := s)
  rw [← hrest, List.head?_append, hc]
  rfl

theorem isTrimmed_trim (s : String) : IsTrimmed (trim s) := by
  rw [IsTrimmed, toList_trim]
  constructor
  · intro c hc
    have hhead := head?_rdropWhile hc
    have hfirst := List.head?_dropWhile_not isBlank s.toList
    rw [hhead] at hfirst
    exact hfirst
  · intro c hc
    obtain ⟨hne, rfl⟩ := List.mem_getLast?_eq_getLast hc
    exact Bool.not_eq_true _ ▸ List.rdropWhile_last_not isBlank _ hne

theorem trim_eq_self_iff {s : String} : trim s = s ↔ IsTrimmed s := by
  constructor
  · intro h
    rw [← h]
    exact isTrimmed_trim s
  · rintro ⟨hfirst, hlast⟩
    have hstart : s.toList.dropWhile isBlank = s.toList := by
      cases hs : s.toList with
      | nil => rfl
      | cons c rest => exact List.dropWhile_cons_of_neg (by simp [hfirst c (by rw [hs]; rfl)])
    have hend : s.toList.rdropWhile isBlank = s.toList := by
      refine List.rdropWhile_eq_self_iff.mpr fun hne ↦ ?_
      rw [hlast _ (List.getLast?_eq_some_getLast hne)]
      exact Bool.false_ne_true
    rw [← String.toList_inj, toList_trim, hstart, hend]

theorem trim_trim (s : String) : trim (trim s) = trim s :=
  trim_eq_self_iff.mpr (isTrimmed_trim s)

/-- What dropping blanks takes away is blank. -/
theorem all_dropWhile (s : List Char) : (s.dropWhile isBlank).all isBlank = s.all isBlank := by
  have hdropped : (s.takeWhile isBlank).all isBlank = true :=
    List.all_eq_true.mpr fun _ hc ↦ List.mem_takeWhile_imp hc
  conv_rhs => rw [← List.takeWhile_append_dropWhile (p := isBlank) (l := s), List.all_append,
    hdropped, Bool.true_and]

/-- A text that says something still does when it is trimmed. -/
theorem isBlankText_trim (s : String) : isBlankText (trim s) = isBlankText s := by
  rw [isBlankText, toList_trim, List.rdropWhile, List.all_reverse, all_dropWhile, List.all_reverse,
    all_dropWhile, isBlankText]

/-- Nothing is left of a blank text, and of no other. -/
theorem trim_eq_empty_iff {s : String} : trim s = "" ↔ isBlankText s = true := by
  rw [← isBlankText_trim]
  constructor
  · intro h
    rw [h]
    rfl
  · intro h
    obtain ⟨hfirst, -⟩ := isTrimmed_trim s
    rw [← String.toList_inj, String.toList_empty]
    cases hs : (trim s).toList with
    | nil => rfl
    | cons c rest =>
      rw [isBlankText, hs, List.all_cons, hfirst c (by rw [hs]; rfl)] at h
      cases h

theorem unlessBlank_eq_some_iff {s : Option String} {t : String} :
    unlessBlank s = some t ↔ s = some t ∧ isBlankText t = false := by
  simp [unlessBlank, Option.filter_eq_some_iff]

theorem unlessBlank_unlessBlank (s : Option String) :
    unlessBlank (unlessBlank s) = unlessBlank s := by
  ext t
  simp only [unlessBlank_eq_some_iff, and_assoc, and_self]

theorem isBlank_of_isDigit {c : Char} (h : c.isDigit = true) : isBlank c = false := by
  have hrange : 48 ≤ c.toNat ∧ c.toNat ≤ 57 := by
    simpa [Char.isDigit, UInt32.le_iff_toNat_le] using h
  simp only [isBlank, Bool.or_eq_false_iff, Bool.and_eq_false_iff, decide_eq_false_iff_not,
    beq_eq_false_iff_ne]
  omega

/-- The digits of a number are no blank text. -/
theorem isBlankText_toString (n : Nat) : isBlankText (toString n) = false := by
  have hdigits : (toString n).toList = Nat.toDigits 10 n := String.toList_ofList
  rw [isBlankText, hdigits, List.all_eq_false]
  obtain ⟨c, hc⟩ := List.exists_mem_of_ne_nil _ (Nat.toDigits_ne_nil )
  refine ⟨c, hc, ?_⟩
  rw [isBlank_of_isDigit (Nat.isDigit_of_mem_toDigits (by omega) (by omega) hc)]
  exact Bool.false_ne_true

end QueryWatch.Text
