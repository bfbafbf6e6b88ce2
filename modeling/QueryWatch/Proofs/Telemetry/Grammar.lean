import QueryWatch.Proofs.Telemetry.Reading

/-!
The grammar of messages. `Shape.rules` says which fields a shape has, of which types, and which of
them must be given. An object is read as a shape exactly when the fields given are of their types
and none that must be given is missing (`Shape.readable_iff`).
-/

set_option autoImplicit false

namespace QueryWatch

open Json (Fields Read Member Layout)

/-! ### Types of fields -/

/-- The types of fields. -/
inductive FieldType
  | text
  | flag
  | word (bound : Nat)
  | texts
  | name (names : List String)
  | connection
  | seconds
  | optional (type : FieldType)

/-- The values of a type. One of some names stands alone or is the only field of an object with
nothing in it; a connection is a text or a number of 64 bits; seconds are a number or a text. -/
def FieldType.Admits : FieldType → Json → Prop
  | text, v => ∃ s, v = .string s
  | flag, v => ∃ b, v = .bool b
  | word bound, v => ∃ n < bound, v = Json.nat n
  | texts, v => ∃ texts, v = Json.strings texts
  | name names, v =>
    ∃ n ∈ names, v = .string n ∨ v = .object [(n, .null)] ∨ v = .object [(n, .object [])]
  | connection, v => (∃ s, v = .string s) ∨ ∃ n < UInt64.size, v = Json.nat n
  | seconds, v => (∃ n, v = .number n) ∨ ∃ s, v = .string s
  | optional type, v => v = .null ∨ type.Admits v

/-- A reader takes exactly the values of a type. -/
def FieldType.ReadBy {α : Type} (type : FieldType) (read : Read α) : Prop :=
  ∀ v, (∃ a, read v = .ok a) ↔ type.Admits v

namespace FieldType

variable {α β : Type} {type : FieldType} {read : Read α}

/-- What is made of a value that was read does not change which values are read. -/
theorem ReadBy.map (h : type.ReadBy read) (f : α → β) : type.ReadBy fun v ↦ (read v).map f := by
  intro v
  rw [← h v]
  dsimp only
  cases read v <;> simp [Except.map]

theorem readBy_readString : text.ReadBy Json.readString := by
  intro v
  simp only [Json.readString_eq_ok_iff, Admits]

theorem readBy_readBool : flag.ReadBy Json.readBool := by
  intro v
  simp only [Json.readBool_eq_ok_iff, Admits]

theorem readBy_readBelow (bound : Nat) (expected : String) :
    (word bound).ReadBy (Json.readBelow bound expected) := by
  intro v
  simp only [Json.readBelow_eq_ok_iff, Admits]

theorem readBy_readOptional (h : type.ReadBy read) :
    (optional type).ReadBy (Json.readOptional read) := by
  intro v
  by_cases hv : v = .null
  · subst hv
    simp [Admits, Json.readOptional]
  · rw [Json.readOptional_of_ne_null hv, Admits, ← h v]
    cases read v <;> simp [Except.map, hv]

theorem readBy_readList : texts.ReadBy (Json.readList Json.readString) := by
  intro v
  constructor
  · rintro ⟨ss, hread⟩
    exact ⟨ss, Json.readList_readString_eq_ok_iff.mp hread⟩
  · rintro ⟨ss, rfl⟩
    exact ⟨ss, Json.readList_readString_eq_ok_iff.mpr rfl⟩

theorem exists_variant_iff {variants : List (String × α)} {n : String} :
    (∃ a, Json.readVariant.variant variants n = .ok a) ↔ n ∈ variants.map Prod.fst := by
  have hmem : n ∈ variants.map Prod.fst ↔ (variants.lookup n).isSome := by
    simp [List.lookup_isSome_iff]
  rw [hmem, Json.readVariant.variant]
  cases variants.lookup n <;> simp

theorem readBy_readVariant (variants : List (String × α)) :
    (name (variants.map Prod.fst)).ReadBy (Json.readVariant variants) := by
  intro v
  unfold Json.readVariant Admits
  split
  next s => simp [exists_variant_iff]
  next n value =>
    simp only [bind_eq_ok_iff]
    constructor
    · rintro ⟨b, a, ha, hb⟩
      refine ⟨n, exists_variant_iff.mp ⟨a, ha⟩, ?_⟩
      split at hb
      · exact Or.inr (Or.inl rfl)
      · exact Or.inr (Or.inr rfl)
      · cases hb
    · rintro ⟨m, hm, heq⟩
      obtain ⟨a, ha⟩ := exists_variant_iff.mpr hm
      rcases heq with heq | heq | heq <;> cases heq
      · exact ⟨a, a, ha, rfl⟩
      · exact ⟨a, a, ha, rfl⟩
  next fields hfields => simp_all
  next hstring _ hobject => simp_all

/-- The numbers among the values of a type. -/
theorem exists_nat_iff {bound : Nat} {i : Int} :
    (∃ n < bound, Json.number (.whole i) = Json.nat n) ↔ 0 ≤ i ∧ i < bound := by
  simp only [Json.nat, Json.number.injEq, Json.Number.whole.injEq]
  constructor
  · rintro ⟨n, hn, rfl⟩
    omega
  · rintro ⟨hle, hlt⟩
    exact ⟨i.toNat, by omega, by omega⟩

theorem readBy_readConnection : connection.ReadBy Wire.readConnection := by
  intro v
  cases v with
  | number n =>
    cases n with
    | whole i =>
      rw [Admits, exists_nat_iff, Wire.readConnection]
      split <;> simp_all
    | real x => simp [Admits, Wire.readConnection, Json.nat]
  | _ => simp [Admits, Wire.readConnection, Json.nat]

theorem readBy_readDuration : seconds.ReadBy Wire.readDuration := by
  intro v
  cases v with
  | number n => cases n <;> simp [Admits, Wire.readDuration]
  | _ => simp [Admits, Wire.readDuration]

end FieldType

/-! ### Fields of shapes -/

/-- A field of a message: its name, its type, and whether it must be given. -/
structure FieldRule where
  name : String
  type : FieldType
  required : Bool

namespace Shape

/-- The fields of each shape. -/
def rules : Shape → List FieldRule
  | tagged .sessionState =>
    [⟨"connection_id", .text, true⟩, ⟨"state", .name ["started", "finished"], true⟩]
  | tagged .queryIssued =>
    [⟨"connection_id", .text, true⟩, ⟨"command_id", .word UInt64.size, true⟩,
      ⟨"database_name", .optional .text, false⟩, ⟨"query_text", .text, true⟩,
      ⟨"parameters", .texts, false⟩, ⟨"is_executable", .flag, false⟩]
  | tagged .queryResult =>
    [⟨"connection_id", .text, true⟩, ⟨"command_id", .word UInt64.size, true⟩,
      ⟨"status", .name ["ok", "error"], true⟩, ⟨"error_message", .optional .text, false⟩,
      ⟨"duration_millis", .word UInt64.size, true⟩]
  | wire .query =>
    [⟨"ConnId", .connection, true⟩, ⟨"CmdId", .word UInt64.size, true⟩,
      ⟨"Database", .optional .text, false⟩, ⟨"Query", .text, true⟩,
      ⟨"Parameters", .optional .texts, false⟩, ⟨"Executable", .flag, false⟩]
  | wire .result =>
    [⟨"ConnId", .connection, true⟩, ⟨"CmdId", .word UInt64.size, true⟩,
      ⟨"Result", .word UInt8.size, true⟩, ⟨"Error", .optional .text, false⟩,
      ⟨"Duration", .optional .seconds, false⟩]
  | wire .state => [⟨"ConnId", .connection, true⟩, ⟨"State", .word UInt8.size, true⟩]

/-- All fields that must be given are. -/
def Complete (shape : Shape) (fields : Fields) : Prop :=
  ∀ rule ∈ shape.rules, rule.required = true → (fields.get? rule.name).isSome

/-- All fields given are of their types. -/
def Typed (shape : Shape) (fields : Fields) : Prop :=
  ∀ rule ∈ shape.rules, ∀ v, (rule.name, v) ∈ fields → rule.type.Admits v

end Shape

/-- A rule says how a member is read. -/
def FieldRule.Describes (rule : FieldRule) (m : (α : Type) × Member α) : Prop :=
  rule.name = m.2.name ∧ (rule.required = true ↔ m.2.absent = none) ∧ rule.type.ReadBy m.2.read

section Describes

variable {rules : List FieldRule} {members : List ((α : Type) × Member α)} {fields : Fields}

/-- What is found to be checked of a field is what its rule says. -/
theorem forall_find?_iff (h : List.Forall₂ FieldRule.Describes rules members)
    (hnodup : (rules.map (·.name)).Nodup) (name : String) (v : Json) :
    (∀ r, (members.map (·.2.rule)).find? (·.name == name) = some r → r.check v = .ok ()) ↔
      ∀ rule ∈ rules, rule.name = name → rule.type.Admits v := by
  induction h with
  | nil => simp
  | @cons rule m rules members hrule hrest ih =>
    obtain ⟨hname, -, hread⟩ := hrule
    rw [List.map_cons, List.nodup_cons] at hnodup
    rw [List.forall_mem_cons, ← hread v, ← Json.Member.rule_check_eq_ok_iff, hname, List.map_cons]
    by_cases heq : m.2.name = name
    · have hothers : ∀ rule ∈ rules, rule.name = name → rule.type.Admits v := by
        intro other hother hsame
        refine absurd (List.mem_map.mpr ⟨other, hother, ?_⟩) hnodup.1
        rw [hsame, hname, heq]
      rw [List.find?_cons_of_pos (by simpa [Member.rule] using heq)]
      simpa [heq] using fun _ ↦ hothers
    · rw [List.find?_cons_of_neg (by simpa [Member.rule] using heq), ih hnodup.2]
      simp [heq]

/-- If the fields given are of their types, the members are there when those that must be given
are. -/
theorem forall_required_iff (h : List.Forall₂ FieldRule.Describes rules members)
    (htyped : ∀ rule ∈ rules, ∀ v, (rule.name, v) ∈ fields → rule.type.Admits v) :
    (∀ rule ∈ rules, rule.required = true → (fields.get? rule.name).isSome) ↔
      ∀ m ∈ members, ∃ a, m.2.value? fields = some a := by
  induction h with
  | nil => simp
  | @cons rule m rules members hrule hrest ih =>
    obtain ⟨hname, hrequired, hread⟩ := hrule
    rw [List.forall_mem_cons] at htyped
    have hmember : ∀ v, (m.2.name, v) ∈ fields → ∃ a, m.2.read v = .ok a := fun v hv ↦
      (hread v).mpr (htyped.1 v (hname ▸ hv))
    rw [List.forall_mem_cons, List.forall_mem_cons, ih htyped.2,
      Member.exists_value?_iff hmember, hrequired, hname]

end Describes

namespace Shape

open FieldType

variable {shape : Shape} {fields : Fields}

/-- The members of each shape are read as its rules say. -/
theorem describes (shape : Shape) :
    List.Forall₂ FieldRule.Describes shape.rules shape.members := by
  have hword64 := (readBy_readBelow UInt64.size "u64").map Nat.toUInt64
  have hword8 := (readBy_readBelow UInt8.size "u8").map Nat.toUInt8
  have htext? := readBy_readOptional readBy_readString
  have hstage : (name ["started", "finished"]).ReadBy Tagged.state.read := readBy_readVariant _
  have hstatus : (name ["ok", "error"]).ReadBy Tagged.status.read := readBy_readVariant _
  have hyes {α : Type} : true = true ↔ (none : Option α) = none := by simp
  have hno {α : Type} {a : α} : false = true ↔ some a = none := by simp
  rcases shape with (_ | _ | _) | (_ | _ | _)
  · exact .cons ⟨rfl, hyes, readBy_readString⟩ <| .cons ⟨rfl, hyes, hstage⟩ .nil
  · exact .cons ⟨rfl, hyes, readBy_readString⟩ <| .cons ⟨rfl, hyes, hword64⟩ <|
      .cons ⟨rfl, hno, htext?⟩ <| .cons ⟨rfl, hyes, readBy_readString⟩ <|
      .cons ⟨rfl, hno, readBy_readList⟩ <| .cons ⟨rfl, hno, readBy_readBool⟩ .nil
  · exact .cons ⟨rfl, hyes, readBy_readString⟩ <| .cons ⟨rfl, hyes, hword64⟩ <|
      .cons ⟨rfl, hyes, hstatus⟩ <| .cons ⟨rfl, hno, htext?⟩ <| .cons ⟨rfl, hyes, hword64⟩ .nil
  · exact .cons ⟨rfl, hyes, readBy_readConnection⟩ <| .cons ⟨rfl, hyes, hword64⟩ <|
      .cons ⟨rfl, hno, htext?⟩ <| .cons ⟨rfl, hyes, readBy_readString⟩ <|
      .cons ⟨rfl, hno, readBy_readOptional readBy_readList⟩ <|
      .cons ⟨rfl, hno, readBy_readBool⟩ .nil
  · exact .cons ⟨rfl, hyes, readBy_readConnection⟩ <| .cons ⟨rfl, hyes, hword64⟩ <|
      .cons ⟨rfl, hyes, hword8⟩ <| .cons ⟨rfl, hno, htext?⟩ <|
      .cons ⟨rfl, hno, readBy_readOptional readBy_readDuration⟩ .nil
  · exact .cons ⟨rfl, hyes, readBy_readConnection⟩ <| .cons ⟨rfl, hyes, hword8⟩ .nil

theorem nodup_names (shape : Shape) : (shape.rules.map (·.name)).Nodup := by
  rcases shape with (_ | _ | _) | (_ | _ | _) <;> decide

/-- The check of an object passes if its fields are of their types. -/
theorem check_eq_ok_iff : shape.layout.check fields = .ok () ↔ shape.Typed fields := by
  rw [Layout.check_eq_ok_iff shape.closed_layout, rules_layout]
  constructor
  · intro h rule hrule v hv
    exact (forall_find?_iff shape.describes shape.nodup_names rule.name v).mp (h _ hv) rule
      hrule rfl
  · rintro h ⟨name, v⟩ hv
    refine (forall_find?_iff shape.describes shape.nodup_names name v).mpr ?_
    rintro rule hrule rfl
    exact h rule hrule v hv

/-- An object can be read if its fields are of their types and none is missing. -/
theorem readable_iff : shape.Readable fields ↔ shape.Typed fields ∧ shape.Complete fields := by
  rw [Readable, check_eq_ok_iff]
  exact and_congr_right fun htyped ↦ (forall_required_iff shape.describes htyped).symm

end Shape

end QueryWatch
