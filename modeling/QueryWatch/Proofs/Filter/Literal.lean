import QueryWatch.Proofs.Filter
import QueryWatch.Proofs.Text.LowerCase

/-!
Filters and the texts they stand in. A filter whose text is settled accepts every query in which its
text stands (`accepts_of_infix`), and whatever a longer filter accepts (`accepts_of_longer`). No other
filter does either: `accepted_infix_iff` makes this an equivalence, so it is the final sigma alone
that can hide a query from a filter that is a part of it (`not_forall_accepted_of_infix`).
-/

set_option autoImplicit false

namespace QueryWatch.Filter

variable {f g : Filter} {query : String}

/-- A settled filter finds every query its text stands in. -/
theorem accepts_of_infix (hsettled : Text.IsSettled f.text.toList)
    (h : f.text.toList <:+: query.toList) : f.accepts query = true :=
  accepts_iff.mpr (hsettled.lowerCase_infix h)

/-- What a filter accepts is accepted by every settled filter that is a part of it. -/
theorem accepts_of_longer (hsettled : Text.IsSettled f.text.toList)
    (h : f.text.toList <:+: g.text.toList) (hquery : g.accepts query = true) :
    f.accepts query = true :=
  accepts_iff.mpr ((hsettled.lowerCase_infix h).trans (accepts_iff.mp hquery))

theorem accepts_self (query : String) : (⟨query⟩ : Filter).accepts query = true :=
  accepts_iff.mpr (List.infix_refl _)

/-- A filter that is not settled misses a query its text stands in. -/
theorem exists_accepts_eq_false (h : ¬Text.IsSettled f.text.toList) :
    ∃ query : String, f.text.toList <:+: query.toList ∧ f.accepts query = false := by
  obtain ⟨text, hpart, hnot⟩ := Text.exists_lowerCase_not_infix h
  refine ⟨String.ofList text, by rwa [String.toList_ofList], ?_⟩
  rw [Bool.eq_false_iff, ne_eq, accepts_iff, Matches, String.toList_ofList]
  exact hnot

/-- A filter accepts every record in whose query text its own text stands exactly if it has no
capital sigma at which a word might end, depending on what stands around the filter's text. Exactly
then, too, no longer filter accepts a record that it does not accept. -/
theorem accepted_infix_iff (f : Filter) :
    ((∀ r : RecordedQuery, f.text.toList <:+: r.query.text.toList → f.accepted r = true) ↔
      Text.IsSettled f.text.toList) ∧
    ((∀ g : Filter, f.text.toList <:+: g.text.toList →
        ∀ r : RecordedQuery, g.accepted r = true → f.accepted r = true) ↔
      Text.IsSettled f.text.toList) := by
  have hmissed : ¬Text.IsSettled f.text.toList → ∃ r : RecordedQuery,
      f.text.toList <:+: r.query.text.toList ∧ f.accepted r = false := by
    intro hopen
    obtain ⟨query, hpart, hnot⟩ := exists_accepts_eq_false hopen
    exact ⟨⟨⟨"", 0, none, query, [], false⟩, 0, none, false, 0⟩, hpart, hnot⟩
  refine ⟨⟨fun hall ↦ ?_, fun hsettled r hpart ↦ accepts_of_infix hsettled hpart⟩,
    ⟨fun hall ↦ ?_, fun hsettled g hpart r hr ↦ accepts_of_longer hsettled hpart hr⟩⟩
  · by_contra hopen
    obtain ⟨r, hpart, hnot⟩ := hmissed hopen
    rw [hall r hpart] at hnot
    cases hnot
  · by_contra hopen
    obtain ⟨r, hpart, hnot⟩ := hmissed hopen
    rw [hall ⟨r.query.text⟩ hpart r (accepts_self r.query.text)] at hnot
    cases hnot

/-- Not every filter finds the queries it stands in: a capital sigma is not found at the end of a
word, while the whole word is. -/
theorem not_forall_accepted_of_infix :
    (¬∀ (f : Filter) (r : RecordedQuery),
      f.text.toList <:+: r.query.text.toList → f.accepted r = true) ∧
    ¬∀ f g : Filter, f.text.toList <:+: g.text.toList →
      ∀ r : RecordedQuery, g.accepted r = true → f.accepted r = true := by
  have hpart : "Σ".toList <:+: "ΑΣ".toList := ⟨['Α'], [], rfl⟩
  have hmissed : (⟨"Σ"⟩ : Filter).accepts "ΑΣ" = false := by decide +kernel
  let r : RecordedQuery := ⟨⟨"5", 1, none, "ΑΣ", [], true⟩, 0, none, true, 1⟩
  have hnever : ¬(⟨"Σ"⟩ : Filter).accepted r = true := by
    rw [accepted, hmissed]
    exact Bool.false_ne_true
  exact ⟨fun hall ↦ hnever (hall ⟨"Σ"⟩ r hpart),
    fun hall ↦ hnever (hall ⟨"Σ"⟩ ⟨"ΑΣ"⟩ hpart r (accepts_self "ΑΣ"))⟩

end QueryWatch.Filter
