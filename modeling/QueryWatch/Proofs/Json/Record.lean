import Mathlib.Data.List.Basic
import QueryWatch.Telemetry.Decode

/-!
Reading records. An open record is read from an object in two steps: every field given is checked
for its type (`Layout.check_eq_ok_iff`), and then each member is what was given for it or its
default (`Member.value?`, `field_eq_ok_iff`). Once the check has passed, a member can only fail by
being absent (`Member.exists_value?_iff`). Fields that the record does not have make no difference
(`Layout.check_restrict`, `get?_restrict`).
-/

set_option autoImplicit false

namespace QueryWatch

/-- What a computation that may stop gives, read backwards through a step. -/
theorem bind_eq_ok_iff {ε α β : Type} {x : Except ε α} {f : α → Except ε β} {b : β} :
    (x >>= f) = .ok b ↔ ∃ a, x = .ok a ∧ f a = .ok b := by
  cases x with
  | error e => simp [bind, Except.bind]
  | ok a => simp [bind, Except.bind]

namespace Json

variable {α : Type} {l : Layout} {f : Member α} {fields : Fields}

/-! ### The types of values -/

theorem readString_eq_ok_iff {j : Json} {s : String} : readString j = .ok s ↔ j = .string s := by
  cases j <;> simp [readString]

theorem readBool_eq_ok_iff {j : Json} {b : Bool} : readBool j = .ok b ↔ j = .bool b := by
  cases j <;> simp [readBool]

theorem readBelow_eq_ok_iff {bound n : Nat} {expected : String} {j : Json} :
    readBelow bound expected j = .ok n ↔ n < bound ∧ j = nat n := by
  unfold readBelow nat
  split
  next i =>
    split
    next h =>
      simp only [Except.ok.injEq, number.injEq, Number.whole.injEq]
      omega
    next h =>
      simp only [reduceCtorEq, number.injEq, Number.whole.injEq, false_iff]
      omega
  next hother =>
    simp only [reduceCtorEq, false_iff]
    rintro ⟨-, rfl⟩
    exact hother _ rfl

theorem map_eq_ok_iff {β : Type} {x : Except Mismatch α} {g : α → β} {b : β} :
    x.map g = .ok b ↔ ∃ a, x = .ok a ∧ g a = b := by
  cases x <;> simp [Except.map]

theorem readWord8_eq_ok_iff {j : Json} {b : UInt8} : readWord8 j = .ok b ↔ j = nat b.toNat := by
  rw [readWord8, map_eq_ok_iff]
  constructor
  · rintro ⟨n, hread, rfl⟩
    obtain ⟨hn, rfl⟩ := readBelow_eq_ok_iff.mp hread
    rw [Nat.toUInt8_eq, UInt8.toNat_ofNat_of_lt' hn]
  · rintro rfl
    exact ⟨b.toNat, readBelow_eq_ok_iff.mpr ⟨b.toNat_lt, rfl⟩, UInt8.ofNat_toNat⟩

theorem readWord64_eq_ok_iff {j : Json} {n : UInt64} : readWord64 j = .ok n ↔ j = nat n.toNat := by
  rw [readWord64, map_eq_ok_iff]
  constructor
  · rintro ⟨m, hread, rfl⟩
    obtain ⟨hm, rfl⟩ := readBelow_eq_ok_iff.mp hread
    rw [Nat.toUInt64_eq, UInt64.toNat_ofNat_of_lt' hm]
  · rintro rfl
    exact ⟨n.toNat, readBelow_eq_ok_iff.mpr ⟨n.toNat_lt, rfl⟩, UInt64.ofNat_toNat⟩

theorem readOptional_of_ne_null {read : Read α} {j : Json} (hj : j ≠ .null) :
    readOptional read j = (read j).map some := by
  cases j with
  | null => exact absurd rfl hj
  | _ => rfl

/-- A list of texts is read as the texts in it. -/
theorem readList_readString_eq_ok_iff {j : Json} {texts : List String} :
    readList readString j = .ok texts ↔ j = strings texts := by
  unfold strings
  cases j with
  | array items =>
    simp only [readList, array.injEq]
    induction items generalizing texts with
    | nil => cases texts <;> simp [pure, Except.pure]
    | cons item items ih =>
      simp only [List.mapM_cons, bind_eq_ok_iff, readString_eq_ok_iff, ih, pure, Except.pure,
        Except.ok.injEq]
      cases texts <;> simp [eq_comm, and_comm]
  | _ => simp [readList]

/-! ### Members -/

/-- What a member is in an object with these fields: its value as it is read, or its default. -/
def Member.value? (f : Member α) (fields : Fields) : Option α :=
  match fields.get? f.name with
  | some j => (f.read j).toOption
  | none => f.absent

theorem field_eq_ok_iff {index : Nat} {a : α} :
    (Given.named fields).field l index f = .ok a ↔ f.value? fields = some a := by
  unfold Given.field Member.value?
  dsimp only
  cases fields.get? f.name with
  | some j =>
    dsimp only
    cases f.read j <;> simp [Except.toOption]
  | none => cases f.absent <;> simp

theorem readFields_eq_ok_iff {build : Given → Except Mismatch α} {a : α} :
    readFields l fields build = .ok a ↔
      l.check fields = .ok () ∧ build (.named fields) = .ok a := by
  unfold readFields
  cases l.check fields <;> simp

theorem Member.rule_check_eq_ok_iff {v : Json} :
    f.rule.check v = .ok () ↔ ∃ a, f.read v = .ok a := by
  unfold Member.rule
  dsimp only
  cases f.read v <;> simp [Except.map]

/-- A field that an open record does not have is passed over. -/
theorem Layout.check_cons_of_unknown {name : String} (hopen : l.closed = false)
    (hunknown : l.rules.find? (·.name == name) = none) (v : Json) (rest : Fields) :
    l.check ((name, v) :: rest) = l.check rest := by
  rw [Layout.check, hunknown, hopen]
  rfl

/-- In an open record the fields that are given must be of their types. -/
theorem Layout.check_eq_ok_iff (hopen : l.closed = false) :
    l.check fields = .ok () ↔ ∀ p ∈ fields, ∀ rule,
      l.rules.find? (·.name == p.1) = some rule → rule.check p.2 = .ok () := by
  induction fields with
  | nil => simp [Layout.check]
  | cons p rest ih =>
    obtain ⟨name, value⟩ := p
    rw [List.forall_mem_cons, ← ih, Layout.check, hopen]
    cases l.rules.find? (·.name == name) with
    | none => simp
    | some rule => cases h : rule.check value <;> simp [h]

theorem mem_of_get?_eq_some {name : String} {v : Json} (h : fields.get? name = some v) :
    (name, v) ∈ fields := by
  obtain ⟨before, after, rfl, -⟩ := List.lookup_eq_some_iff.mp h
  exact List.mem_append_right before List.mem_cons_self

/-- Once the fields given are of their types, a member can only fail by being absent. -/
theorem Member.exists_value?_iff (htyped : ∀ v, (f.name, v) ∈ fields → ∃ a, f.read v = .ok a) :
    (∃ a, f.value? fields = some a) ↔ (f.absent = none → (fields.get? f.name).isSome) := by
  unfold Member.value?
  cases hget : fields.get? f.name with
  | none => cases f.absent <;> simp
  | some v =>
    obtain ⟨a, ha⟩ := htyped v (mem_of_get?_eq_some hget)
    simp [ha, Except.toOption]

theorem value?_required_eq_some_iff {name : String} {read : Read α} {a : α} :
    (Member.required name read).value? fields = some a ↔
      ∃ v, fields.get? name = some v ∧ read v = .ok a := by
  unfold Member.value? Member.required
  dsimp only
  cases fields.get? name with
  | none => simp
  | some v => cases h : read v <;> simp [h, Except.toOption]

/-! ### Fields of no concern -/

/-- The fields with some of the names. -/
def Fields.restrict (fields : Fields) (names : List String) : Fields :=
  fields.filter (·.1 ∈ names)

theorem get?_restrict {names : List String} {name : String} (hname : name ∈ names) :
    (fields.restrict names).get? name = fields.get? name := by
  unfold Fields.get? Fields.restrict
  induction fields with
  | nil => rfl
  | cons p rest ih =>
    obtain ⟨n, v⟩ := p
    by_cases hn : n ∈ names
    · rw [List.filter_cons_of_pos (by simpa using hn), List.lookup_cons, List.lookup_cons, ih]
    · have hne : (name == n) = false := beq_false_of_ne fun heq ↦ hn (heq ▸ hname)
      rw [List.filter_cons_of_neg (by simpa using hn), List.lookup_cons, hne, ih]

/-- Fields that an open record does not have are not looked at. -/
theorem Layout.check_restrict (hopen : l.closed = false) {names : List String}
    (hnames : ∀ rule ∈ l.rules, rule.name ∈ names) :
    l.check (fields.restrict names) = l.check fields := by
  unfold Fields.restrict
  induction fields with
  | nil => rfl
  | cons p rest ih =>
    obtain ⟨n, v⟩ := p
    by_cases hn : n ∈ names
    · rw [List.filter_cons_of_pos (by simpa using hn), Layout.check, Layout.check, ih]
    · have hnone : l.rules.find? (·.name == n) = none := by
        refine List.find?_eq_none.mpr fun rule hrule heq ↦ hn ?_
        rw [← eq_of_beq heq]
        exact hnames rule hrule
      rw [List.filter_cons_of_neg (by simpa using hn), ih, Layout.check_cons_of_unknown hopen hnone]

end Json
end QueryWatch
