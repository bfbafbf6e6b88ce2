import QueryWatch.Proofs.Decimal.Binary64
import QueryWatch.Proofs.Telemetry.Choice
import QueryWatch.Proofs.Telemetry.Validation

/-!
Which messages are refused, and why. What an object of a shape is read as is said once for all
shapes, before it is validated (`Event.outcome`) and after (`Event.decoded`): it is malformed, or it
has a value that no event has, such as a blank text, a byte that is no stage, or a duration below
zero (for the whole numbers of 64 bits, see `isDuration_whole_iff`), or it gives an event. From
this the class of every refusal is read off (`Event.decode_classified`).
-/

set_option autoImplicit false

namespace QueryWatch

open Json (Fields Member Mismatch)
open Decimal (Binary64 Literal)

variable {fields other : Fields} {shape : Shape}

/-! ### Values that no event has -/

/-- The field that names the connection. -/
def Shape.connectionField : Shape → String
  | tagged _ => "connection_id"
  | wire _ => "ConnId"

/-- The field that has the text of a query. -/
def Shape.textField? : Shape → Option String
  | tagged .queryIssued => some "query_text"
  | wire .query => some "Query"
  | _ => none

/-- A field that is given as a blank text. -/
def IsBlankField (fields : Fields) (name : String) : Prop :=
  ∃ s, fields.get? name = some (.string s) ∧ Text.isBlankText s = true

/-- The values that say how long a command took: none at all, or a finite number of seconds from
zero on, as a number or as a text. A whole number beyond all binary64 ones is read as zero. -/
def IsDuration : Json → Prop
  | .null => True
  | .number (.whole i) => 0 ≤ i ∨ Binary64.ofInt i = none
  | .number (.real x) => x.isBelowZero = false
  | .string s => ∃ x, Literal.ofText? (Text.trim s) = some (.finite x) ∧ x.isBelowZero = false
  | _ => False

/-- The whole numbers of 64 bits are durations from zero on. -/
theorem isDuration_whole_iff {i : Int} (hi : i.natAbs < UInt64.size) :
    IsDuration (.number (.whole i)) ↔ 0 ≤ i := by
  have hsome := Binary64.isSome_ofInt hi
  simp [IsDuration, Option.isSome_iff_ne_none.mp hsome]

/-- The numbers of a message of the proxy stand for a duration and for a stage. -/
def Shape.NumbersUsable (fields : Fields) : Shape → Prop
  | wire .result => ∀ v, fields.get? "Duration" = some v → IsDuration v
  | wire .state => ∀ n, fields.get? "State" = some (Json.nat n) → n = 244 ∨ n = 245
  | _ => True

/-- The fields of a message have values that an event can have. -/
structure Shape.Usable (shape : Shape) (fields : Fields) : Prop where
  numbers : shape.NumbersUsable fields
  connection : ¬IsBlankField fields shape.connectionField
  text : ∀ name, shape.textField? = some name → ¬IsBlankField fields name

/-! ### Numbers of the proxy -/

namespace Wire

theorem exists_millis_iff {x : Binary64} : (∃ n, millis x = .ok n) ↔ x.isBelowZero = false := by
  unfold millis
  cases x.isBelowZero with
  | true => simp
  | false =>
    simp only [Bool.false_eq_true, if_false]
    split <;> simp

theorem Duration.cls_of_millis {d : Duration} {r : Refusal} (h : d.millis = .error r) :
    r.cls = .invalidField := by
  have hseconds {x : Binary64} (hx : Wire.millis x = .error r) : r.cls = .invalidField := by
    unfold Wire.millis at hx
    split at hx
    · cases hx
      rfl
    · split at hx <;> cases hx
  cases d with
  | seconds x => exact hseconds h
  | text s =>
    unfold Duration.millis at h
    dsimp only at h
    split at h
    · cases h
      rfl
    · exact hseconds h
    · cases h
      rfl

/-- A duration that was read has a number of milliseconds if it is one from zero on. -/
theorem Duration.exists_millis_iff {v : Json} {d : Duration} (h : readDuration v = .ok d) :
    (∃ n, d.millis = .ok n) ↔ IsDuration v := by
  cases v with
  | number n =>
    cases n with
    | whole i =>
      cases h
      simp only [Duration.millis, Wire.exists_millis_iff, IsDuration]
      cases hx : Binary64.ofInt i with
      | none => simp [Binary64.zero, Binary64.isBelowZero]
      | some x =>
        have hsign := Binary64.isBelowZero_of_ofInt hx
        simp only [Option.getD_some, reduceCtorEq, or_false, ← Bool.not_eq_true, hsign, not_lt]
    | real x =>
      cases h
      exact Wire.exists_millis_iff
  | string s =>
    cases h
    simp only [Duration.millis, IsDuration]
    split
    next hnone => simp [hnone]
    next x hfinite => simp [hfinite, Wire.exists_millis_iff]
    next number hinfinite hnumber =>
      simp only [reduceCtorEq, exists_false, hnumber, Option.some.injEq, false_iff]
      rintro ⟨x, rfl, -⟩
      exact hinfinite x rfl
  | _ => cases h

theorem exists_millis?_iff {d : Option Duration} (h : duration.value? fields = some d) :
    (∃ n, millis? d = .ok n) ↔ ∀ v, fields.get? "Duration" = some v → IsDuration v := by
  unfold duration Member.withDefault Member.value? at h
  dsimp only at h
  cases hget : fields.get? "Duration" with
  | none =>
    rw [hget] at h
    cases h
    simp [millis?]
  | some v =>
    rw [hget] at h
    dsimp only at h
    simp only [Option.some.injEq, forall_eq']
    by_cases hnull : v = .null
    · subst hnull
      cases h
      simp [millis?, IsDuration]
    · rw [Json.readOptional_of_ne_null hnull] at h
      cases hread : readDuration v with
      | error m => simp [hread, Except.map, Except.toOption] at h
      | ok duration =>
        simp only [hread, Except.map, Except.toOption, Option.some.injEq] at h
        rw [← h]
        exact Duration.exists_millis_iff hread

theorem cls_of_millis? {d : Option Duration} {r : Refusal} (h : millis? d = .error r) :
    r.cls = .invalidField := by
  cases d with
  | none => cases h
  | some d => exact d.cls_of_millis h

theorem exists_stage_iff {byte : UInt8} :
    (∃ s, stage byte = .ok s) ↔ byte = startedByte ∨ byte = finishedByte := by
  unfold stage
  split_ifs <;> simp_all

/-- A byte that was read stands for a stage if it is one of two. -/
theorem exists_stage_iff_of_value? {byte : UInt8} (h : state.value? fields = some byte) :
    (∃ s, stage byte = .ok s) ↔
      ∀ n, fields.get? "State" = some (Json.nat n) → n = 244 ∨ n = 245 := by
  obtain ⟨v, hget, hread⟩ := Json.value?_required_eq_some_iff.mp h
  rw [Json.readWord8_eq_ok_iff.mp hread] at hget
  rw [exists_stage_iff, hget, startedByte, finishedByte, ← UInt8.toNat_inj, ← UInt8.toNat_inj]
  simp only [Json.nat, Option.some.injEq, Json.number.injEq, Json.Number.whole.injEq,
    Int.natCast_inj, forall_eq']
  rfl

theorem cls_of_stage {byte : UInt8} {r : Refusal} (h : stage byte = .error r) :
    r.cls = .invalidField := by
  unfold stage at h
  split_ifs at h
  cases h
  rfl

end Wire

/-! ### Blank texts -/

theorem isBlankField_iff {name s : String} (h : fields.get? name = some (.string s)) :
    IsBlankField fields name ↔ Text.isBlankText s = true := by
  simp [IsBlankField, h]

/-- A text that was read is blank if its field is. -/
theorem isBlankText_iff_of_readString {name s : String}
    (h : (Member.required name Json.readString).value? fields = some s) :
    Text.isBlankText s = true ↔ IsBlankField fields name := by
  obtain ⟨v, hget, hread⟩ := Json.value?_required_eq_some_iff.mp h
  rw [Json.readString_eq_ok_iff.mp hread] at hget
  exact (isBlankField_iff hget).symm

/-- A connection that was read is blank if its field is a blank text. -/
theorem Wire.isBlankText_iff {c : ConnectionId} (h : connection.value? fields = some c) :
    Text.isBlankText c = true ↔ IsBlankField fields "ConnId" := by
  obtain ⟨v, hget, hread⟩ := Json.value?_required_eq_some_iff.mp h
  cases v with
  | string s =>
    cases hread
    rw [isBlankField_iff hget, Text.isBlankText_trim]
  | number n =>
    cases n with
    | whole i =>
      simp only [readConnection] at hread
      split at hread
      · cases hread
        rw [Text.isBlankText_toString]
        simp [IsBlankField, hget]
      · cases hread
    | real x => cases hread
  | _ => cases hread

/-! ### What an object of a shape is read as -/

/-- What an object of a shape gives before it is validated: it is malformed, or a number in it
stands for nothing, or it gives an event. -/
inductive Shape.Outcome (shape : Shape) (fields : Fields) : Except Refusal Event → Prop
  | malformed {r : Refusal} (hunreadable : ¬shape.Readable fields) (hcls : r.cls = .invalidEvent) :
    Outcome shape fields (.error r)
  | unusable {r : Refusal} (hreadable : shape.Readable fields)
    (hnumbers : ¬shape.NumbersUsable fields) (hcls : r.cls = .invalidField) :
    Outcome shape fields (.error r)
  | event {e : Event} (hreadable : shape.Readable fields) (hnumbers : shape.NumbersUsable fields)
    (hkind : e.kind = shape.kind)
    (hconnection : Text.isBlankText e.connection = true ↔
      IsBlankField fields shape.connectionField)
    (htext : (∃ q, e = .issued q ∧ Text.isBlankText q.text = true) ↔
      ∃ name, shape.textField? = some name ∧ IsBlankField fields name) :
    Outcome shape fields (.ok e)

/-- Members that cannot be read make an object malformed. -/
theorem Shape.Outcome.of_eq_error {α : Type} {read : Except Mismatch α} {m : Mismatch} {r : Refusal}
    (hreadable : (∃ a, read = .ok a) ↔ shape.Readable fields) (hread : read = .error m)
    (hcls : r.cls = .invalidEvent) : shape.Outcome fields (.error r) := by
  refine .malformed ?_ hcls
  rw [← hreadable, hread]
  simp

theorem Tagged.outcome (kind : EventKind) (fields : Fields) :
    (Shape.tagged kind).Outcome fields
      ((read kind fields).mapError (.malformedTagged kind)) := by
  cases hread : read kind fields with
  | error m => exact .of_eq_error (exists_read_iff kind) hread rfl
  | ok e =>
    have hreadable := (exists_read_iff kind).mp ⟨e, hread⟩
    cases kind with
    | sessionState =>
      obtain ⟨-, c, stage, hc, -, rfl⟩ := read_sessionState_eq_ok_iff.mp hread
      exact .event hreadable trivial rfl (isBlankText_iff_of_readString hc)
        (by simp [Shape.textField?])
    | queryIssued =>
      obtain ⟨-, q, hc, -, -, ht, -, -, rfl⟩ := read_queryIssued_eq_ok_iff.mp hread
      refine .event hreadable trivial rfl (isBlankText_iff_of_readString hc) ?_
      simpa [Shape.textField?] using isBlankText_iff_of_readString ht
    | queryResult =>
      obtain ⟨-, r, hc, -, -, -, -, rfl⟩ := read_queryResult_eq_ok_iff.mp hread
      exact .event hreadable trivial rfl (isBlankText_iff_of_readString hc)
        (by simp [Shape.textField?])

theorem Wire.outcome_query (fields : Fields) :
    (Shape.wire .query).Outcome fields (read .query fields) := by
  rw [read_query_eq]
  cases hread : readQuery fields with
  | error m => exact .of_eq_error exists_readQuery_iff hread rfl
  | ok e =>
    have hreadable := exists_readQuery_iff.mp ⟨e, hread⟩
    obtain ⟨-, c, m, d, t, ps, x, hc, -, -, ht, -, -, rfl⟩ := readQuery_eq_ok_iff.mp hread
    refine .event hreadable trivial rfl (isBlankText_iff hc) ?_
    simpa [Shape.textField?] using isBlankText_iff_of_readString ht

theorem Wire.outcome_result (fields : Fields) :
    (Shape.wire .result).Outcome fields (read .result fields) := by
  rw [read_result_eq]
  cases hread : readResult fields with
  | error m => exact .of_eq_error exists_readResult_iff hread rfl
  | ok r =>
    have hreadable := exists_readResult_iff.mp ⟨r, hread⟩
    obtain ⟨-, hc, -, -, -, hd⟩ := readResult_eq_ok_iff.mp hread
    have hnumbers := exists_millis?_iff hd
    change (Shape.wire .result).Outcome fields ((millis? r.2.2.2.2).map _)
    cases hmillis : millis? r.2.2.2.2 with
    | error refusal =>
      refine .unusable hreadable ?_ (cls_of_millis? hmillis)
      rw [Shape.NumbersUsable, ← hnumbers, hmillis]
      simp
    | ok n =>
      exact .event hreadable (hnumbers.mp ⟨n, hmillis⟩) rfl (isBlankText_iff hc)
        (by simp [Shape.textField?])

theorem Wire.outcome_state (fields : Fields) :
    (Shape.wire .state).Outcome fields (read .state fields) := by
  rw [read_state_eq]
  cases hread : readState fields with
  | error m => exact .of_eq_error exists_readState_iff hread rfl
  | ok r =>
    have hreadable := exists_readState_iff.mp ⟨r, hread⟩
    obtain ⟨-, hc, hbyte⟩ := readState_eq_ok_iff.mp hread
    have hnumbers := exists_stage_iff_of_value? hbyte
    change (Shape.wire .state).Outcome fields ((stage r.2).map _)
    cases hstage : stage r.2 with
    | error refusal =>
      refine .unusable hreadable ?_ (cls_of_stage hstage)
      rw [Shape.NumbersUsable, ← hnumbers, hstage]
      simp
    | ok n =>
      exact .event hreadable (hnumbers.mp ⟨n, hstage⟩) rfl (isBlankText_iff hc)
        (by simp [Shape.textField?])

theorem Event.outcome (h : shape.Chosen fields) : shape.Outcome fields (ofFields fields) := by
  cases shape with
  | tagged kind =>
    rw [ofFields_of_chosen_tagged h]
    exact Tagged.outcome kind fields
  | wire form =>
    rw [ofFields_of_chosen_wire h]
    cases form with
    | query => exact Wire.outcome_query fields
    | result => exact Wire.outcome_result fields
    | state => exact Wire.outcome_state fields

/-! ### Decoding -/

/-- The class of a refusal, or none where an event was decoded. -/
def refusalClass? (decoded : Except Refusal Event) : Option RefusalClass :=
  match decoded with
  | .error r => some r.cls
  | .ok _ => none

/-- Once its numbers stand for something, a message has values that an event can have if the event
that it was read as is valid. -/
theorem Shape.validate_eq_ok_iff_usable {e : Event} (hnumbers : shape.NumbersUsable fields)
    (hconnection : Text.isBlankText e.connection = true ↔
      IsBlankField fields shape.connectionField)
    (htext : (∃ q, e = .issued q ∧ Text.isBlankText q.text = true) ↔
      ∃ name, shape.textField? = some name ∧ IsBlankField fields name) :
    e.validate = .ok () ↔ shape.Usable fields := by
  have husable : shape.Usable fields ↔ ¬IsBlankField fields shape.connectionField ∧
      ¬∃ name, shape.textField? = some name ∧ IsBlankField fields name := by
    constructor
    · rintro ⟨-, hc, ht⟩
      exact ⟨hc, fun ⟨name, hname, hblank⟩ ↦ ht name hname hblank⟩
    · rintro ⟨hc, ht⟩
      exact ⟨hnumbers, hc, fun name hname hblank ↦ ht ⟨name, hname, hblank⟩⟩
  rw [husable, ← hconnection, ← htext, Event.validate_eq_ok_iff]
  simp

/-- What becomes of an object of a shape: it is malformed, or a value in it is one that no event
has, or it gives an event of the kind of the shape. -/
inductive Shape.Decoded (shape : Shape) (fields : Fields) : Except Refusal Event → Prop
  | malformed {r : Refusal} (hunreadable : ¬shape.Readable fields) (hcls : r.cls = .invalidEvent) :
    Decoded shape fields (.error r)
  | unusable {r : Refusal} (hreadable : shape.Readable fields) (hunusable : ¬shape.Usable fields)
    (hcls : r.cls = .invalidField) : Decoded shape fields (.error r)
  | event {e : Event} (hreadable : shape.Readable fields) (husable : shape.Usable fields)
    (hkind : e.kind = shape.kind) : Decoded shape fields (.ok e)

namespace Event

theorem decoded (h : shape.Chosen fields) : shape.Decoded fields (decode (.object fields)) := by
  have houtcome := outcome h
  rw [decode_object]
  generalize ofFields fields = read at houtcome ⊢
  cases houtcome with
  | malformed hunreadable hcls => exact .malformed hunreadable hcls
  | unusable hreadable hnumbers hcls =>
    exact .unusable hreadable (fun husable ↦ hnumbers husable.numbers) hcls
  | @event e hreadable hnumbers hkind hconnection htext =>
    have hvalid := Shape.validate_eq_ok_iff_usable hnumbers hconnection htext
    change shape.Decoded fields (e.validate.map fun _ ↦ e.normalized)
    cases hvalidate : e.validate with
    | error r =>
      refine .unusable hreadable (fun husable ↦ ?_) (cls_of_validate hvalidate)
      rw [hvalid.mpr husable] at hvalidate
      cases hvalidate
    | ok u => exact .event hreadable (hvalid.mp hvalidate) ((kind_normalized e).trans hkind)

/-- Every message is refused for one reason or is decoded. What is no object is no event; an object
of no shape is of an unknown kind; within a shape, a field that is missing or of another type
comes before a value that no event has; and fields that are not of the shape make no difference. -/
theorem decode_classified :
    (∀ v, (∀ fields, v ≠ .object fields) → refusalClass? (decode v) = some .invalidEvent) ∧
    ∀ fields : Fields,
      (refusalClass? (decode (.object fields)) = some .unknownEventKind ↔
        ∀ shape : Shape, ¬shape.Chosen fields) ∧
      ∀ shape : Shape, shape.Chosen fields →
        (refusalClass? (decode (.object fields)) = some .invalidEvent ↔
          ¬(shape.Typed fields ∧ shape.Complete fields)) ∧
        (refusalClass? (decode (.object fields)) = some .invalidField ↔
          (shape.Typed fields ∧ shape.Complete fields) ∧ ¬shape.Usable fields) ∧
        ((∃ e, decode (.object fields) = .ok e ∧ e.kind = shape.kind) ↔
          (shape.Typed fields ∧ shape.Complete fields) ∧ shape.Usable fields) ∧
        ∀ other : Fields, shape.Chosen other →
          other.restrict shape.names = fields.restrict shape.names →
          decode (.object other) = decode (.object fields) := by
  refine ⟨?_, fun fields ↦ ⟨⟨?_, ?_⟩, ?_⟩⟩
  · intro v hv
    cases v with
    | object fields => exact absurd rfl (hv fields)
    | _ => rfl
  · intro hunknown shape hchosen
    have hdecoded := decoded hchosen
    generalize decode (.object fields) = d at hdecoded hunknown
    cases hdecoded with
    | malformed _ hcls => simp [refusalClass?, hcls] at hunknown
    | unusable _ _ hcls => simp [refusalClass?, hcls] at hunknown
    | event => cases hunknown
  · intro hnone
    obtain ⟨r, hr, hcls⟩ := exists_ofFields_of_not_chosen hnone
    rw [decode_object, hr]
    exact congrArg some hcls
  · intro shape hchosen
    have hdecoded := decoded hchosen
    have hothers (other : Fields) (hother : shape.Chosen other)
        (heq : other.restrict shape.names = fields.restrict shape.names) :
        decode (.object other) = decode (.object fields) := by
      rw [decode_object, decode_object, ofFields_eq_of_restrict_eq hchosen hother heq]
    rw [← Shape.readable_iff]
    generalize decode (.object fields) = d at hdecoded hothers ⊢
    cases hdecoded with
    | malformed hunreadable hcls => simpa [refusalClass?, hcls, hunreadable] using hothers
    | unusable hreadable hunusable hcls =>
      simpa [refusalClass?, hcls, hreadable, hunusable] using hothers
    | event hreadable husable hkind =>
      simpa [refusalClass?, hreadable, husable, hkind] using hothers

/-- A tagged result that also has fields of the proxy's messages, one of them ill-typed there. -/
def hybridFields : Fields :=
  [("CmdId", .null), ("Query", .string " "), ("command_id", Json.nat 1),
    ("connection_id", .string "c"), ("duration_millis", Json.nat 5),
    ("kind", .string "query_result"), ("status", .string "ok")]

/-- A result of the proxy with a duration below zero and the state of a session beside it. -/
def negativeFields : Fields :=
  [("CmdId", Json.nat 1), ("ConnId", Json.nat 2), ("Duration", .number (.whole (-1))),
    ("Result", Json.nat 0), ("State", .bool true)]

theorem decode_classified_hybrid :
    ((∀ fields, Json.null ≠ .object fields) ∧ refusalClass? (decode .null) = some .invalidEvent) ∧
    ((Shape.tagged .queryResult).Chosen hybridFields ∧
      ((Shape.tagged .queryResult).Typed hybridFields ∧
        (Shape.tagged .queryResult).Complete hybridFields) ∧
      (Shape.tagged .queryResult).Usable hybridFields) ∧
    ((Shape.wire .result).Chosen negativeFields ∧
      ((Shape.wire .result).Typed negativeFields ∧ (Shape.wire .result).Complete negativeFields) ∧
      ¬(Shape.wire .result).Usable negativeFields ∧ ¬IsDuration (.number (.whole (-1)))) ∧
    ((Shape.tagged .queryResult).Chosen (hybridFields.drop 2) ∧
      Json.Fields.restrict (hybridFields.drop 2) (Shape.tagged .queryResult).names =
        Json.Fields.restrict hybridFields (Shape.tagged .queryResult).names ∧
      decode (.object (hybridFields.drop 2)) = decode (.object hybridFields)) := by
  have hnull : ∀ fields, Json.null ≠ .object fields := by simp
  have hhybrid : (Shape.tagged .queryResult).Chosen hybridFields := rfl
  have hnegative : (Shape.wire .result).Chosen negativeFields := ⟨rfl, rfl, rfl⟩
  obtain ⟨-, -, hok, hothers⟩ := (decode_classified.2 hybridFields).2 _ hhybrid
  obtain ⟨-, hunusable, -, -⟩ := (decode_classified.2 negativeFields).2 _ hnegative
  obtain ⟨hwell, hnot⟩ := hunusable.mp (by rfl)
  have hduration : ¬IsDuration (.number (.whole (-1))) := by
    rw [isDuration_whole_iff (by decide)]
    decide
  exact ⟨⟨hnull, decode_classified.1 _ hnull⟩, ⟨hhybrid, hok.mp ⟨_, rfl, rfl⟩⟩,
    ⟨hnegative, hwell, hnot, hduration⟩, rfl, rfl, hothers _ rfl rfl⟩

end Event
end QueryWatch
