import QueryWatch.Proofs.Telemetry.Choice
import QueryWatch.Proofs.Telemetry.Validation

/-!
Events and their tagged form. The tagged form has the fields of its kind, each of its type
(`typed_taggedFields`), and is read as the event (`ofFields_taggedFields`). So decoding it validates
and normalizes the event (`decode_toJson`), and gives back whatever was decoded before
(`decode_taggedForm`).
-/

set_option autoImplicit false

namespace QueryWatch

open Json (Fields)

namespace Event

/-! ### Reading the tagged form -/

/-- The fields of the tagged form. -/
def taggedFields (e : Event) : Fields :=
  match e.toJson with
  | .object fields => fields
  | _ => []

theorem toJson_eq (e : Event) : e.toJson = .object e.taggedFields := by
  cases e <;> rfl

theorem get?_kind_taggedFields (e : Event) :
    e.taggedFields.get? "kind" = some (.string e.kind.name) := by
  cases e with
  | session c stage => rfl
  | issued q =>
    obtain ⟨c, m, d, t, ps, x⟩ := q
    cases d <;> cases ps <;> rfl
  | result r =>
    obtain ⟨c, m, s, t, n⟩ := r
    cases t <;> rfl

theorem mem_optionalField {name other : String} {t : Option String} {v : Json} :
    (other, v) ∈ optionalField name t ↔ other = name ∧ ∃ s, t = some s ∧ v = .string s := by
  cases t <;> simp [optionalField]

theorem admits_word64 (n : UInt64) : (FieldType.word UInt64.size).Admits (Json.nat n.toNat) :=
  ⟨n.toNat, n.toNat_lt, rfl⟩

theorem admits_stage (stage : SessionStage) :
    (FieldType.name ["started", "finished"]).Admits (.string stage.name) := by
  cases stage <;> simp [FieldType.Admits, SessionStage.name]

theorem admits_verdict (status : Verdict) :
    (FieldType.name ["ok", "error"]).Admits (.string status.name) := by
  cases status <;> simp [FieldType.Admits, Verdict.name]

theorem typed_taggedFields (e : Event) : (Shape.tagged e.kind).Typed e.taggedFields := by
  have htext (s : String) : FieldType.text.Admits (.string s) := ⟨s, rfl⟩
  have hflag (b : Bool) : FieldType.flag.Admits (.bool b) := ⟨b, rfl⟩
  have htexts (ss : List String) : FieldType.texts.Admits (Json.strings ss) := ⟨ss, rfl⟩
  have htext? (t : Option String) : ∀ v s, t = some s → v = .string s →
      (FieldType.optional .text).Admits v := fun v s _ hv ↦ Or.inr ⟨s, hv⟩
  cases e with
  | session c stage =>
    simp [Shape.Typed, Shape.rules, kind, taggedFields, toJson, htext, admits_stage]
  | issued q =>
    simpa [Shape.Typed, Shape.rules, kind, taggedFields, toJson, mem_optionalField, htext, hflag,
      htexts, admits_word64] using htext? q.database
  | result r =>
    simpa [Shape.Typed, Shape.rules, kind, taggedFields, toJson, mem_optionalField, htext,
      admits_word64, admits_verdict] using htext? r.message

theorem value?_of_word64 {fields : Fields} {name : String} {n : UInt64}
    (h : fields.get? name = some (Json.nat n.toNat)) :
    (Json.Member.required name Json.readWord64).value? fields = some n :=
  Json.value?_required_eq_some_iff.mpr ⟨_, h, Json.readWord64_eq_ok_iff.mpr rfl⟩

theorem read_taggedFields (e : Event) : Tagged.read e.kind e.taggedFields = .ok e := by
  have hcheck := Shape.check_eq_ok_iff.mpr e.typed_taggedFields
  cases e with
  | session c stage =>
    refine Tagged.read_sessionState_eq_ok_iff.mpr ⟨hcheck, c, stage, rfl, ?_, rfl⟩
    cases stage <;> rfl
  | issued q =>
    refine Tagged.read_queryIssued_eq_ok_iff.mpr ⟨hcheck, q, ?_⟩
    obtain ⟨c, m, d, t, ps, x⟩ := q
    refine ⟨?_, ?_, ?_, ?_, ?_, ?_, rfl⟩
    · cases d <;> cases ps <;> rfl
    · refine value?_of_word64 ?_
      cases d <;> cases ps <;> rfl
    · cases d <;> cases ps <;> rfl
    · cases d <;> cases ps <;> rfl
    · cases ps with
      | nil => cases d <;> rfl
      | cons p ps =>
        have hread := congrArg Except.toOption
          (Json.readList_readString_eq_ok_iff.mpr (Eq.refl (Json.strings (p :: ps))))
        cases d <;> exact hread
    · cases d <;> cases ps <;> rfl
  | result r =>
    refine Tagged.read_queryResult_eq_ok_iff.mpr ⟨hcheck, r, ?_⟩
    obtain ⟨c, m, s, t, n⟩ := r
    refine ⟨?_, ?_, ?_, ?_, ?_, rfl⟩
    · cases t <;> rfl
    · refine value?_of_word64 ?_
      cases t <;> rfl
    · cases t <;> cases s <;> rfl
    · cases t <;> rfl
    · refine value?_of_word64 ?_
      cases t <;> rfl

/-- The tagged form is read as the event. -/
theorem ofFields_taggedFields (e : Event) : ofFields e.taggedFields = .ok e := by
  rw [ofFields_of_chosen_tagged e.get?_kind_taggedFields, read_taggedFields, Except.mapError]

/-! ### The law of the tagged form -/

theorem decode_toJson (e : Event) :
    decode e.toJson = e.validate.map fun _ ↦ e.normalized := by
  rw [toJson_eq, decode_object, ofFields_taggedFields]
  rfl

/-- The tagged form of an event is refused if the connection or the text of a query is blank, and
else it is decoded to what the event counts as. What was decoded from any message counts as itself,
and is decoded again from its tagged form. -/
theorem decode_taggedForm :
    (∀ e : Event,
      (Text.isBlankText e.connection = true → decode e.toJson = .error .connectionMissing) ∧
      (∀ q, e = .issued q → Text.isBlankText q.connection = false → Text.isBlankText q.text = true →
        decode e.toJson = .error .queryMissing) ∧
      (Text.isBlankText e.connection = false →
        (∀ q, e = .issued q → Text.isBlankText q.text = false) →
        ∃ n, e.CountsAs n ∧ decode e.toJson = .ok n)) ∧
    ∀ v e, decode v = .ok e → e.CountsAs e ∧ decode e.toJson = .ok e := by
  refine ⟨fun e ↦ ⟨?_, ?_, ?_⟩, ?_⟩
  · intro hc
    have hunnamed : e.validate = .error .connectionMissing := by simp [validate, hc]
    rw [decode_toJson, hunnamed, Except.map]
  · rintro q rfl hc ht
    have htextless : (issued q).validate = .error .queryMissing := by
      simp [validate, connection, hc, ht]
    rw [decode_toJson, htextless, Except.map]
  · intro hc ht
    refine ⟨e.normalized, countsAs_iff.mpr rfl, ?_⟩
    rw [decode_toJson, validate_eq_ok_iff.mpr ⟨hc, ht⟩, Except.map]
  · intro v e h
    obtain ⟨hvalid, hnormal⟩ := validate_and_normalized_of_decode h
    refine ⟨countsAs_iff.mpr hnormal.symm, ?_⟩
    rw [decode_toJson, hvalid, Except.map, hnormal]

/-- A blank connection, a query without a text, a result with a message that does not count, and a
query of the proxy with a blank database. -/
theorem decode_taggedForm_blanks :
    (Text.isBlankText "\u3000" = true ∧
      decode (session "\u3000" .started).toJson = .error .connectionMissing) ∧
    (Text.isBlankText "c" = false ∧ Text.isBlankText "\t" = true ∧
      decode (issued ⟨"c", 1, none, "\t", [], true⟩).toJson = .error .queryMissing) ∧
    (Text.isBlankText "\u00a0c 1 " = false ∧
      decode (result ⟨"\u00a0c 1 ", 7, .ok, some "ignored", 12⟩).toJson =
        .ok (result ⟨"c 1", 7, .ok, none, 12⟩)) ∧
    (decode (.object [("CmdId", Json.nat 1), ("ConnId", Json.nat 5), ("Database", .string " "),
        ("Query", .string "select 1")]) = .ok (issued ⟨"5", 1, none, "select 1", [], false⟩) ∧
      decode (issued ⟨"5", 1, none, "select 1", [], false⟩).toJson =
        .ok (issued ⟨"5", 1, none, "select 1", [], false⟩)) := by
  have hdecoded : decode (.object [("CmdId", Json.nat 1), ("ConnId", Json.nat 5),
      ("Database", .string " "), ("Query", .string "select 1")]) =
        .ok (issued ⟨"5", 1, none, "select 1", [], false⟩) := by rfl
  refine ⟨⟨by decide, ?_⟩, ⟨by decide, by decide, ?_⟩, ⟨by decide, ?_⟩, ⟨hdecoded, ?_⟩⟩
  · exact (decode_taggedForm.1 _).1 (by decide)
  · exact (decode_taggedForm.1 _).2.1 _ rfl (by decide) (by decide)
  · obtain ⟨n, hn, hresult⟩ := (decode_taggedForm.1
      (result ⟨"\u00a0c 1 ", 7, .ok, some "ignored", 12⟩)).2.2 (by decide) (by simp)
    rw [hresult, countsAs_iff.mp hn]
    rfl
  · exact (decode_taggedForm.2 _ _ hdecoded).2

end Event
end QueryWatch
