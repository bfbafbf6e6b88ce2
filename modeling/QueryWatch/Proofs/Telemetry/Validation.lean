import QueryWatch.Proofs.Telemetry.Reading
import QueryWatch.Proofs.Text.Blank

/-!
Validating and normalizing events. An event is valid if it names its connection and, for a query,
has a text (`validate_eq_ok_iff`), and normalizing it gives what it counts as (`countsAs_iff`).
Normalizing twice is normalizing once, and changes nothing about validity, so what was decoded is
valid and normal (`validate_and_normalized_of_decode`): its connection is a name, and its texts are
there only if they say something (`wellFormed_of_decode`).
-/

set_option autoImplicit false

namespace QueryWatch

open Json (Fields)

namespace Event

variable {e n : Event}

theorem validate_eq_ok_iff : e.validate = .ok () ↔
    Text.isBlankText e.connection = false ∧
      ∀ q, e = .issued q → Text.isBlankText q.text = false := by
  unfold validate
  cases hc : Text.isBlankText e.connection with
  | true => simp
  | false =>
    cases e with
    | issued q => cases ht : Text.isBlankText q.text <;> simp [ht]
    | _ => simp

theorem cls_of_validate {r : Refusal} (h : e.validate = .error r) : r.cls = .invalidField := by
  unfold validate at h
  split at h
  · cases h
    rfl
  · split at h
    · split at h <;> cases h
      rfl
    · cases h

theorem kind_normalized (e : Event) : e.normalized.kind = e.kind := by
  cases e <;> rfl

theorem normalized_normalized (e : Event) : e.normalized.normalized = e.normalized := by
  cases e with
  | session c stage => simp only [normalized, Text.trim_trim]
  | issued q =>
    simp only [normalized, Query.normalized, Text.trim_trim, Text.unlessBlank_unlessBlank]
  | result r =>
    obtain ⟨c, m, status, message, n⟩ := r
    cases status <;>
      simp only [normalized, QueryResult.normalized, Text.trim_trim, Text.unlessBlank_unlessBlank]

/-- Normalizing an event makes it neither valid nor invalid. -/
theorem validate_normalized (e : Event) : e.normalized.validate = e.validate := by
  have hconnection : Text.isBlankText e.normalized.connection = Text.isBlankText e.connection := by
    cases e <;> exact Text.isBlankText_trim _
  unfold validate
  rw [hconnection]
  cases e <;> rfl

theorem decode_object (fields : Fields) : decode (.object fields) =
    ofFields fields >>= fun e ↦ e.validate.map fun _ ↦ e.normalized := by
  rfl

/-- What was decoded is valid and normal. -/
theorem validate_and_normalized_of_decode {v : Json} (h : decode v = .ok e) :
    e.validate = .ok () ∧ e.normalized = e := by
  cases v with
  | object fields =>
    rw [decode_object] at h
    obtain ⟨raw, -, hraw⟩ := bind_eq_ok_iff.mp h
    cases hvalid : raw.validate with
    | error r => rw [hvalid] at hraw; cases hraw
    | ok u =>
      rw [hvalid] at hraw
      cases hraw
      exact ⟨(validate_normalized raw).trans hvalid, normalized_normalized raw⟩
  | _ => cases h

/-! ### What counts -/

/-- What a valid event counts as: the connection is trimmed, a database counts if its name says
something, and a message counts if it says something about an error. -/
def CountsAs : Event → Event → Prop
  | session c stage, n => n = session (Text.trim c) stage
  | issued q, n => ∃ d, n = issued { q with connection := Text.trim q.connection, database := d } ∧
      ∀ t, d = some t ↔ q.database = some t ∧ Text.isBlankText t = false
  | result r, n => ∃ m, n = result { r with connection := Text.trim r.connection, message := m } ∧
      ∀ t, m = some t ↔ r.message = some t ∧ r.status = .error ∧ Text.isBlankText t = false

theorem message_normalized_eq_some_iff {r : QueryResult} {t : String} :
    r.normalized.message = some t ↔
      r.message = some t ∧ r.status = .error ∧ Text.isBlankText t = false := by
  obtain ⟨c, m, status, message, n⟩ := r
  cases status <;> simp [QueryResult.normalized, Text.unlessBlank_eq_some_iff]

theorem countsAs_iff : e.CountsAs n ↔ n = e.normalized := by
  cases e with
  | session c stage => rfl
  | issued q =>
    constructor
    · rintro ⟨d, rfl, hd⟩
      have hdatabase : d = Text.unlessBlank q.database := by
        ext t
        rw [hd, Text.unlessBlank_eq_some_iff]
      rw [hdatabase, normalized, Query.normalized]
    · rintro rfl
      exact ⟨_, rfl, fun t ↦ Text.unlessBlank_eq_some_iff⟩
  | result r =>
    constructor
    · rintro ⟨m, rfl, hm⟩
      have hmessage : m = r.normalized.message := by
        ext t
        rw [hm, message_normalized_eq_some_iff]
      rw [hmessage, normalized]
      rfl
    · rintro rfl
      exact ⟨_, rfl, fun t ↦ message_normalized_eq_some_iff⟩

end Event

/-! ### Well-formed events -/

/-- A text that can name something: it is not empty, and no blank stands at either end of it. -/
def IsName (s : String) : Prop := s ≠ "" ∧ Text.IsTrimmed s

/-- A message comes with an error only, and says something. -/
def IsMessageFor (status : Verdict) (message : Option String) : Prop :=
  ∀ t, message = some t → status = .error ∧ Text.isBlankText t = false

structure Query.WellFormed (q : Query) : Prop where
  connection : IsName q.connection
  text : Text.isBlankText q.text = false
  database : ∀ t, q.database = some t → Text.isBlankText t = false

structure QueryResult.WellFormed (r : QueryResult) : Prop where
  connection : IsName r.connection
  message : IsMessageFor r.status r.message

def Event.WellFormed : Event → Prop
  | .session c _ => IsName c
  | .issued q => q.WellFormed
  | .result r => r.WellFormed

theorem isName_of_trim_eq {s : String} (htrim : s = Text.trim s)
    (hblank : Text.isBlankText s = false) : IsName s := by
  refine ⟨?_, Text.trim_eq_self_iff.mp htrim.symm⟩
  rintro rfl
  exact Bool.noConfusion hblank

/-- Only well-formed events are decoded. -/
theorem Event.wellFormed_of_decode {v : Json} {e : Event} (h : decode v = .ok e) :
    e.WellFormed := by
  obtain ⟨hvalid, hnormal⟩ := validate_and_normalized_of_decode h
  obtain ⟨hconnection, htext⟩ := validate_eq_ok_iff.mp hvalid
  have hcounts : e.CountsAs e := countsAs_iff.mpr hnormal.symm
  cases e with
  | session c stage =>
    obtain ⟨htrim, -⟩ := Event.session.inj hcounts
    exact isName_of_trim_eq htrim hconnection
  | issued q =>
    obtain ⟨d, heq, hd⟩ := hcounts
    have hq := Event.issued.inj heq
    have hdatabase : q.database = d := congrArg Query.database hq
    exact ⟨isName_of_trim_eq (congrArg Query.connection hq) hconnection, htext q rfl,
      fun t ht ↦ ((hd t).mp (hdatabase ▸ ht)).2⟩
  | result r =>
    obtain ⟨m, heq, hm⟩ := hcounts
    have hr := Event.result.inj heq
    have hmessage : r.message = m := congrArg QueryResult.message hr
    exact ⟨isName_of_trim_eq (congrArg QueryResult.connection hr) hconnection,
      fun t ht ↦ ((hm t).mp (hmessage ▸ ht)).2⟩

theorem Event.wellFormed_of_decodeText {raw : String} {e : Event} (h : decodeText raw = .ok e) :
    e.WellFormed := by
  unfold decodeText at h
  split at h
  · cases h
  · exact wellFormed_of_decode h

end QueryWatch
