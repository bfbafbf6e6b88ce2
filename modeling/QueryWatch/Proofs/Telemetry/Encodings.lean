import QueryWatch.Proofs.Telemetry.Choice
import QueryWatch.Proofs.Telemetry.Validation

/-!
The two encodings of messages. `SaysSame` relates the fields of a message of the proxy to those of a
tagged event: the connection is the same text or is a number and its digits, the other fields have
the same values under their other names, where a default stands for what is missing, and bytes stand
for states and statuses. Each field is then read alike up to what normalizing an event evens out
(`trim_connection_eq`, `getD_parameters_eq`, `status_eq`, `stage_eq`), and objects that are read as
events with the same normal form are decoded alike (`decode_eq_of_normalized_eq`). So what is decoded
does not depend on the encoding (`decode_wire_eq_decode_tagged`).
-/

set_option autoImplicit false

namespace QueryWatch

open Json (Fields Read Member)

/-- The value of a field, or a default if it is missing or null. -/
def Json.Fields.givenOr (fields : Fields) (name : String) (default : Json) : Json :=
  match fields.get? name with
  | none => default
  | some .null => default
  | some v => v

/-- An object has a shape, and its fields are of the types of the shape, none of them missing. -/
structure Shape.WellTyped (shape : Shape) (fields : Fields) : Prop where
  chosen : shape.Chosen fields
  typed : shape.Typed fields
  complete : shape.Complete fields

/-! ### Messages that say the same -/

/-- A message of the proxy and a tagged event name a connection by the same text, or one by a number
of 64 bits and the other by its digits. -/
def SameConnection (wire tagged : Fields) : Prop :=
  (∃ t, wire.get? "ConnId" = some (.string t) ∧ tagged.get? "connection_id" = some (.string t)) ∨
    ∃ n < UInt64.size, wire.get? "ConnId" = some (Json.nat n) ∧
      tagged.get? "connection_id" = some (.string (toString n))

structure SameQuery (wire tagged : Fields) : Prop where
  connection : SameConnection wire tagged
  command : wire.get? "CmdId" = tagged.get? "command_id"
  database : wire.givenOr "Database" .null = tagged.givenOr "database_name" .null
  text : wire.get? "Query" = tagged.get? "query_text"
  parameters :
    wire.givenOr "Parameters" (Json.strings []) = tagged.givenOr "parameters" (Json.strings [])
  executable :
    wire.givenOr "Executable" (.bool false) = tagged.givenOr "is_executable" (.bool false)

/-- The proxy gives no duration, and the tagged event a duration of zero. -/
structure SameResult (wire tagged : Fields) : Prop where
  connection : SameConnection wire tagged
  command : wire.get? "CmdId" = tagged.get? "command_id"
  status : ∃ byte : UInt8, wire.get? "Result" = some (Json.nat byte.toNat) ∧
    tagged.get? "status" = some (.string (if byte = 255 then "error" else "ok"))
  message : wire.givenOr "Error" .null = tagged.givenOr "error_message" .null
  unmeasured : wire.givenOr "Duration" .null = .null
  instant : tagged.get? "duration_millis" = some (Json.nat 0)

structure SameState (wire tagged : Fields) : Prop where
  connection : SameConnection wire tagged
  state :
    wire.get? "State" = some (Json.nat 244) ∧ tagged.get? "state" = some (.string "started") ∨
      wire.get? "State" = some (Json.nat 245) ∧ tagged.get? "state" = some (.string "finished")

/-- A message of the proxy of a form says the same as a tagged event. -/
def WireForm.SaysSame : WireForm → Fields → Fields → Prop
  | .query => SameQuery
  | .result => SameResult
  | .state => SameState

variable {α : Type} {fields wire tagged : Fields}

/-! ### Reading the fields alike -/

/-- A field with a default is read from what is given for it, if null can only stand for the
default. -/
theorem Json.read_givenOr {name : String} {read : Read α} {a b : α} (default : Json)
    (hdefault : read default = .ok a) (hnull : ∀ c, read .null = .ok c → c = a)
    (h : (Member.withDefault name read a).value? fields = some b) :
    read (fields.givenOr name default) = .ok b := by
  unfold Member.value? Member.withDefault at h
  unfold Fields.givenOr
  cases hget : fields.get? name with
  | none =>
    simp only [hget, Option.some.injEq] at h
    rw [← h]
    exact hdefault
  | some v =>
    simp only [hget] at h
    have hread : read v = .ok b := by
      cases hv : read v with
      | error m => simp [hv, Except.toOption] at h
      | ok c => simpa [hv, Except.toOption] using h
    by_cases hv : v = .null
    · subst hv
      rw [hnull b hread]
      exact hdefault
    · cases v with
      | null => exact absurd rfl hv
      | _ => exact hread

/-- Members with a default that are read in the same way from what is given are the same. -/
theorem Json.value?_withDefault_inj {name name' : String} {read : Read α} {a b c : α}
    (default : Json) (hdefault : read default = .ok a) (hnull : ∀ c, read .null = .ok c → c = a)
    (hsame : wire.givenOr name default = tagged.givenOr name' default)
    (hwire : (Member.withDefault name read a).value? wire = some b)
    (htagged : (Member.withDefault name' read a).value? tagged = some c) : b = c := by
  have hread := read_givenOr default hdefault hnull hwire
  rw [hsame, read_givenOr default hdefault hnull htagged] at hread
  exact (Except.ok.inj hread).symm

/-- Required members that are read in the same way from the same value are the same. -/
theorem Json.value?_required_inj {name name' : String} {read : Read α} {b c : α}
    (hsame : wire.get? name = tagged.get? name')
    (hwire : (Member.required name read).value? wire = some b)
    (htagged : (Member.required name' read).value? tagged = some c) : b = c := by
  obtain ⟨v, hv, hread⟩ := value?_required_eq_some_iff.mp hwire
  obtain ⟨w, hw, hread'⟩ := value?_required_eq_some_iff.mp htagged
  rw [hsame, hw] at hv
  cases hv
  rw [hread] at hread'
  exact Except.ok.inj hread'

theorem optionalText_inj {name name' : String} {b c : Option String}
    (hsame : wire.givenOr name .null = tagged.givenOr name' .null)
    (hwire : (Member.withDefault name (Json.readOptional Json.readString) none).value? wire =
      some b)
    (htagged : (Member.withDefault name' (Json.readOptional Json.readString) none).value? tagged =
      some c) : b = c :=
  Json.value?_withDefault_inj .null rfl (fun _ h ↦ (Except.ok.inj h).symm) hsame hwire htagged

/-- A connection is the same, apart from blanks around its name. -/
theorem trim_connection_eq {b c : ConnectionId} (hsame : SameConnection wire tagged)
    (hwire : Wire.connection.value? wire = some b)
    (htagged : Tagged.connection.value? tagged = some c) : Text.trim b = Text.trim c := by
  obtain ⟨v, hv, hread⟩ := Json.value?_required_eq_some_iff.mp hwire
  obtain ⟨w, hw, hread'⟩ := Json.value?_required_eq_some_iff.mp htagged
  rw [Json.readString_eq_ok_iff] at hread'
  subst hread'
  rcases hsame with ⟨t, ht, ht'⟩ | ⟨n, hn, hnat, hdigits⟩
  · rw [ht] at hv
    rw [ht'] at hw
    cases hv
    cases hw
    cases hread
    exact Text.trim_trim _
  · rw [hnat] at hv
    rw [hdigits] at hw
    cases hv
    cases hw
    have hrange : 0 ≤ (n : Int) ∧ (n : Int) < UInt64.size := by omega
    rw [Json.nat, Wire.readConnection, if_pos hrange, Except.ok.injEq] at hread
    rw [← hread, Int.toNat_natCast]

/-- What is made of a member that was read can be made while it is read. -/
theorem Json.value?_withDefault_map {β : Type} {name : String} {read : Read α} {a b : α}
    (f : α → β) (h : (Member.withDefault name read a).value? fields = some b) :
    (Member.withDefault name (fun v ↦ (read v).map f) (f a)).value? fields = some (f b) := by
  unfold Member.value? Member.withDefault at h ⊢
  cases hget : fields.get? name with
  | none =>
    simp only [hget, Option.some.injEq] at h ⊢
    rw [h]
  | some v =>
    simp only [hget] at h ⊢
    cases hv : read v with
    | error m => simp [hv, Except.toOption] at h
    | ok c =>
      simp only [hv, Except.toOption, Option.some.injEq, Except.map] at h ⊢
      rw [h]

/-- The parameters are the same, where none are given and where there are none. -/
theorem getD_parameters_eq {b : Option (List String)} {c : List String}
    (hsame : wire.givenOr "Parameters" (Json.strings []) =
      tagged.givenOr "parameters" (Json.strings []))
    (hwire : Wire.parameters.value? wire = some b)
    (htagged : Tagged.parameters.value? tagged = some c) : b.getD [] = c := by
  have hread := Json.read_givenOr (a := []) (Json.strings []) rfl
    (fun _ h ↦ (Except.ok.inj h).symm) (Json.value?_withDefault_map (·.getD []) hwire)
  have hread' := Json.read_givenOr (a := []) (Json.strings []) rfl
    (fun _ h ↦ by cases Json.readList_readString_eq_ok_iff.mp h) htagged
  rw [hsame, Json.readList_readString_eq_ok_iff.mp hread', Json.map_eq_ok_iff] at hread
  obtain ⟨ps, hps, hgiven⟩ := hread
  have hlist : Json.strings c ≠ .null := by
    unfold Json.strings
    exact nofun
  rw [Json.readOptional_of_ne_null hlist, Json.readList_readString_eq_ok_iff.mpr rfl] at hps
  cases hps
  exact hgiven.symm

/-- A byte and a status say the same. -/
theorem status_eq {byte : UInt8} {status : Verdict}
    (hbyte : ∃ byte : UInt8, wire.get? "Result" = some (Json.nat byte.toNat) ∧
      tagged.get? "status" = some (.string (if byte = 255 then "error" else "ok")))
    (hwire : Wire.result.value? wire = some byte)
    (htagged : Tagged.status.value? tagged = some status) : Wire.status byte = status := by
  obtain ⟨given, hgiven, hname⟩ := hbyte
  obtain ⟨v, hv, hread⟩ := Json.value?_required_eq_some_iff.mp hwire
  obtain ⟨w, hw, hread'⟩ := Json.value?_required_eq_some_iff.mp htagged
  rw [hgiven] at hv
  rw [hname] at hw
  cases hv
  cases hw
  rw [Json.readWord8_eq_ok_iff.mpr rfl] at hread
  cases hread
  unfold Wire.status Wire.errorByte
  by_cases herror : byte = 255
  · rw [if_pos herror] at hread' ⊢
    exact Except.ok.inj hread'
  · rw [if_neg herror] at hread' ⊢
    exact Except.ok.inj hread'

/-- A byte and the name of a state say the same. -/
theorem stage_eq {byte : UInt8} {stage : SessionStage}
    (hsame : wire.get? "State" = some (Json.nat 244) ∧
        tagged.get? "state" = some (.string "started") ∨
      wire.get? "State" = some (Json.nat 245) ∧
        tagged.get? "state" = some (.string "finished"))
    (hwire : Wire.state.value? wire = some byte)
    (htagged : Tagged.state.value? tagged = some stage) : Wire.stage byte = .ok stage := by
  obtain ⟨v, hv, hread⟩ := Json.value?_required_eq_some_iff.mp hwire
  obtain ⟨w, hw, hread'⟩ := Json.value?_required_eq_some_iff.mp htagged
  rcases hsame with ⟨hbyte, hname⟩ | ⟨hbyte, hname⟩ <;>
    · rw [hbyte] at hv
      rw [hname] at hw
      cases hv
      cases hw
      cases hread
      cases hread'
      rfl

/-! ### Decoding alike -/

namespace Event

variable {e n : Event}

/-- Objects that are read as events with the same normal form are decoded alike. -/
theorem decode_eq_of_normalized_eq (hwire : ofFields wire = .ok e)
    (htagged : ofFields tagged = .ok n) (hsame : e.normalized = n.normalized) :
    decode (.object wire) = decode (.object tagged) := by
  have hvalid : e.validate = n.validate := by
    rw [← validate_normalized e, hsame, validate_normalized n]
  rw [decode_object, decode_object, hwire, htagged]
  show (e.validate.map fun _ ↦ e.normalized) = n.validate.map fun _ ↦ n.normalized
  rw [hvalid, hsame]

/-- An object that can be read as an event is decoded, or refused because a field of it is not
valid. -/
theorem decode_of_ofFields_eq_ok (h : ofFields fields = .ok e) :
    (∃ n, decode (.object fields) = .ok n) ∨
      ∃ r, decode (.object fields) = .error r ∧ r.cls = .invalidField := by
  have hdecode : decode (.object fields) = e.validate.map fun _ ↦ e.normalized := by
    rw [decode_object, h]
    rfl
  cases hvalid : e.validate with
  | error r =>
    refine Or.inr ⟨r, ?_, cls_of_validate hvalid⟩
    rw [hdecode, hvalid, Except.map]
  | ok u =>
    refine Or.inl ⟨e.normalized, ?_⟩
    rw [hdecode, hvalid, Except.map]

end Event

/-- Well-typed fields of a kind are read as an event. -/
theorem Tagged.exists_read_of_wellTyped {kind : EventKind}
    (h : (Shape.tagged kind).WellTyped fields) :
    ∃ e, Tagged.read kind fields = .ok e ∧ Event.ofFields fields = .ok e := by
  obtain ⟨e, he⟩ := (Tagged.exists_read_iff kind).mpr
    (Shape.readable_iff.mpr ⟨h.typed, h.complete⟩)
  refine ⟨e, he, ?_⟩
  rw [Event.ofFields_of_chosen_tagged h.chosen, he, Except.mapError]

theorem SameQuery.exists_normalized (h : SameQuery wire tagged)
    (hwire : (Shape.wire .query).WellTyped wire)
    (htagged : (Shape.tagged .queryIssued).WellTyped tagged) :
    ∃ e n, Event.ofFields wire = .ok e ∧ Event.ofFields tagged = .ok n ∧
      e.normalized = n.normalized := by
  obtain ⟨e, he⟩ := Wire.exists_readQuery_iff.mpr
    (Shape.readable_iff.mpr ⟨hwire.typed, hwire.complete⟩)
  obtain ⟨n, hn, hread⟩ := Tagged.exists_read_of_wellTyped htagged
  have hwire' : Event.ofFields wire = .ok e := by
    rw [Event.ofFields_of_chosen_wire hwire.chosen, Wire.read_query_eq, he, Except.mapError]
  refine ⟨e, n, hwire', hread, ?_⟩
  obtain ⟨-, c, m, d, t, ps, x, hc, hm, hd, ht, hps, hx, rfl⟩ := Wire.readQuery_eq_ok_iff.mp he
  obtain ⟨-, q, hc', hm', hd', ht', hps', hx', rfl⟩ := Tagged.read_queryIssued_eq_ok_iff.mp hn
  have hexecutable : x = q.executable :=
    Json.value?_withDefault_inj (.bool false) rfl
      (fun _ h ↦ by cases Json.readBool_eq_ok_iff.mp h) h.executable hx hx'
  simp only [Event.normalized, Query.normalized, trim_connection_eq h.connection hc hc',
    Json.value?_required_inj h.command hm hm', optionalText_inj h.database hd hd',
    Json.value?_required_inj h.text ht ht', getD_parameters_eq h.parameters hps hps', hexecutable]

theorem SameResult.exists_normalized (h : SameResult wire tagged)
    (hwire : (Shape.wire .result).WellTyped wire)
    (htagged : (Shape.tagged .queryResult).WellTyped tagged) :
    ∃ e n, Event.ofFields wire = .ok e ∧ Event.ofFields tagged = .ok n ∧
      e.normalized = n.normalized := by
  obtain ⟨⟨c, m, byte, message, d⟩, hmembers⟩ := Wire.exists_readResult_iff.mpr
    (Shape.readable_iff.mpr ⟨hwire.typed, hwire.complete⟩)
  obtain ⟨n, hn, hread⟩ := Tagged.exists_read_of_wellTyped htagged
  obtain ⟨-, hc, hm, hbyte, hmessage, hd⟩ := Wire.readResult_eq_ok_iff.mp hmembers
  obtain ⟨-, r, hc', hm', hstatus, hmessage', hmillis, rfl⟩ :=
    Tagged.read_queryResult_eq_ok_iff.mp hn
  have hnone : d = none := by
    have hgiven : Json.readOptional Wire.readDuration (wire.givenOr "Duration" .null) = .ok d :=
      Json.read_givenOr .null rfl (fun _ h ↦ (Except.ok.inj h).symm) hd
    rw [h.unmeasured] at hgiven
    exact (Except.ok.inj hgiven).symm
  have hzero : r.millis = 0 := by
    obtain ⟨v, hv, hzero⟩ := Json.value?_required_eq_some_iff.mp hmillis
    rw [h.instant] at hv
    cases hv
    exact (Except.ok.inj hzero).symm
  have hcommand : m = r.command := Json.value?_required_inj h.command hm hm'
  have htext : message = r.message := optionalText_inj h.message hmessage hmessage'
  subst hnone
  refine ⟨.result ⟨c, m, Wire.status byte, message, 0⟩, .result r, ?_, hread, ?_⟩
  · rw [Event.ofFields_of_chosen_wire hwire.chosen, Wire.read_result_eq, hmembers]
    rfl
  · simp only [Event.normalized, QueryResult.normalized, trim_connection_eq h.connection hc hc',
      hcommand, status_eq h.status hbyte hstatus, htext, hzero]

theorem SameState.exists_normalized (h : SameState wire tagged)
    (hwire : (Shape.wire .state).WellTyped wire)
    (htagged : (Shape.tagged .sessionState).WellTyped tagged) :
    ∃ e n, Event.ofFields wire = .ok e ∧ Event.ofFields tagged = .ok n ∧
      e.normalized = n.normalized := by
  obtain ⟨⟨c, byte⟩, hmembers⟩ := Wire.exists_readState_iff.mpr
    (Shape.readable_iff.mpr ⟨hwire.typed, hwire.complete⟩)
  obtain ⟨n, hn, hread⟩ := Tagged.exists_read_of_wellTyped htagged
  obtain ⟨-, hc, hbyte⟩ := Wire.readState_eq_ok_iff.mp hmembers
  obtain ⟨-, c', stage, hc', hstage, rfl⟩ := Tagged.read_sessionState_eq_ok_iff.mp hn
  refine ⟨.session c stage, .session c' stage, ?_, hread, ?_⟩
  · rw [Event.ofFields_of_chosen_wire hwire.chosen, Wire.read_state_eq, hmembers]
    show (Wire.stage byte).map _ = _
    rw [stage_eq h.state hbyte hstage, Except.map]
  · rw [Event.normalized, Event.normalized, trim_connection_eq h.connection hc hc']

/-- A well-typed message of the proxy and a well-typed tagged event that say the same are decoded to
the same event, or are both refused for the same invalid field. -/
theorem Event.decode_wire_eq_decode_tagged (form : WireForm) (hsame : form.SaysSame wire tagged)
    (hwire : (Shape.wire form).WellTyped wire)
    (htagged : (Shape.tagged (Shape.wire form).kind).WellTyped tagged) :
    decode (.object wire) = decode (.object tagged) ∧
      ((∃ e, decode (.object wire) = .ok e) ∨
        ∃ r, decode (.object wire) = .error r ∧ r.cls = .invalidField) := by
  have hread : ∃ e n, ofFields wire = .ok e ∧ ofFields tagged = .ok n ∧
      e.normalized = n.normalized := by
    cases form with
    | query => exact SameQuery.exists_normalized hsame hwire htagged
    | result => exact SameResult.exists_normalized hsame hwire htagged
    | state => exact SameState.exists_normalized hsame hwire htagged
  obtain ⟨e, n, he, hn, hnormal⟩ := hread
  exact ⟨decode_eq_of_normalized_eq he hn hnormal, decode_of_ofFields_eq_ok he⟩

/-- A query on a connection that is numbered, without parameters; a failed command; and a session
whose name has blanks around it. -/
theorem Event.decode_wire_eq_decode_tagged_numbered :
    decode (.object [("CmdId", Json.nat 1), ("ConnId", Json.nat 5), ("Parameters", .null),
        ("Query", .string "SELECT 1")]) =
      decode (.object [("command_id", Json.nat 1), ("connection_id", .string "5"),
        ("kind", .string "query_issued"), ("query_text", .string "SELECT 1")]) ∧
    decode (.object [("CmdId", Json.nat 1), ("ConnId", Json.nat 5), ("Error", .string "deadlock"),
        ("Result", Json.nat 255)]) =
      decode (.object [("command_id", Json.nat 1), ("connection_id", .string "5"),
        ("duration_millis", Json.nat 0), ("error_message", .string "deadlock"),
        ("kind", .string "query_result"), ("status", .string "error")]) ∧
    decode (.object [("ConnId", .string " 5"), ("State", Json.nat 244)]) =
      decode (.object [("connection_id", .string " 5"), ("kind", .string "session_state"),
        ("state", .string "started")]) := by
  have htagged {kind : EventKind} {fields : Fields} (hchosen : (Shape.tagged kind).Chosen fields)
      (hread : ∃ e, Tagged.read kind fields = .ok e) : (Shape.tagged kind).WellTyped fields := by
    obtain ⟨htyped, hcomplete⟩ := Shape.readable_iff.mp ((Tagged.exists_read_iff kind).mp hread)
    exact ⟨hchosen, htyped, hcomplete⟩
  have hwire {form : WireForm} {fields : Fields} (hchosen : (Shape.wire form).Chosen fields)
      (hreadable : (Shape.wire form).Readable fields) : (Shape.wire form).WellTyped fields := by
    obtain ⟨htyped, hcomplete⟩ := Shape.readable_iff.mp hreadable
    exact ⟨hchosen, htyped, hcomplete⟩
  refine ⟨?_, ?_, ?_⟩
  · exact And.left (decode_wire_eq_decode_tagged .query
      ⟨Or.inr ⟨5, by decide, rfl, rfl⟩, rfl, rfl, rfl, rfl, rfl⟩
      (hwire ⟨rfl, rfl⟩ (Wire.exists_readQuery_iff.mp ⟨_, rfl⟩)) (htagged rfl ⟨_, rfl⟩))
  · exact And.left (decode_wire_eq_decode_tagged .result
      ⟨Or.inr ⟨5, by decide, rfl, rfl⟩, rfl, ⟨255, rfl, rfl⟩, rfl, rfl, rfl⟩
      (hwire ⟨rfl, rfl, rfl⟩ (Wire.exists_readResult_iff.mp ⟨_, rfl⟩)) (htagged rfl ⟨_, rfl⟩))
  · exact And.left (decode_wire_eq_decode_tagged .state
      ⟨Or.inl ⟨" 5", rfl, rfl⟩, Or.inl ⟨rfl, rfl⟩⟩
      (hwire ⟨rfl, rfl, rfl, rfl⟩ (Wire.exists_readState_iff.mp ⟨_, rfl⟩)) (htagged rfl ⟨_, rfl⟩))

end QueryWatch
