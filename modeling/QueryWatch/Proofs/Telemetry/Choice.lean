import QueryWatch.Proofs.Telemetry.Grammar

/-!
The shape a message is read as. The kind decides if there is one, and else the first form of which
the object has the field (`Event.ofFields_of_chosen_tagged`, `Event.ofFields_of_chosen_wire`); an
object of no shape is refused for that (`Event.exists_ofFields_of_not_chosen`). Within a shape only
the fields of the shape count (`Event.ofFields_eq_of_restrict_eq`).
-/

set_option autoImplicit false

namespace QueryWatch

open Json (Fields Given Layout Member get?_restrict)

/-- The shape of an object: the kind it names, or else the first form of which it has the field. -/
def Shape.Chosen (fields : Fields) : Shape → Prop
  | tagged kind => fields.get? "kind" = some (.string kind.name)
  | wire .query => fields.get? "kind" = none ∧ (fields.get? "Query").isSome
  | wire .result =>
    fields.get? "kind" = none ∧ fields.get? "Query" = none ∧ (fields.get? "Result").isSome
  | wire .state =>
    fields.get? "kind" = none ∧ fields.get? "Query" = none ∧ fields.get? "Result" = none ∧
      (fields.get? "State").isSome

variable {fields other : Fields} {shape : Shape}

/-! ### Choosing -/

theorem Tagged.kind?_eq_some_iff {name : String} {kind : EventKind} :
    kind? name = some kind ↔ name = kind.name := by
  unfold kind?
  cases kind <;> simp only [EventKind.name] <;> split_ifs <;> simp_all

theorem Wire.form?_eq_some_iff {form : WireForm} (hkind : fields.get? "kind" = none) :
    form? fields = some form ↔ (Shape.wire form).Chosen fields := by
  unfold form?
  cases form <;> simp only [Shape.Chosen, hkind, true_and] <;>
    cases fields.get? "Query" <;> cases fields.get? "Result" <;> cases fields.get? "State" <;> simp

/-- A message of a kind is read as a tagged event, whatever other fields it has. -/
theorem Event.ofFields_of_chosen_tagged {kind : EventKind} (h : (Shape.tagged kind).Chosen fields) :
    ofFields fields = (Tagged.read kind fields).mapError (.malformedTagged kind) := by
  have hkind : fields.get? "kind" = some (.string kind.name) := h
  rw [ofFields, hkind]
  dsimp only [Json.asString?, Option.getD_some]
  rw [Tagged.kind?_eq_some_iff.mpr rfl]

theorem Shape.Chosen.kind_eq_none {form : WireForm} (h : (wire form).Chosen fields) :
    fields.get? "kind" = none := by
  cases form <;> exact h.1

/-- A message without a kind is read as the first form of which it has the field. -/
theorem Event.ofFields_of_chosen_wire {form : WireForm} (h : (Shape.wire form).Chosen fields) :
    ofFields fields = Wire.read form fields := by
  have hkind := h.kind_eq_none
  rw [ofFields, hkind]
  dsimp only
  rw [(Wire.form?_eq_some_iff hkind).mpr h]

/-- An object of no shape names no kind there is, or has the field of no form. -/
theorem Event.exists_ofFields_of_not_chosen (h : ∀ shape : Shape, ¬shape.Chosen fields) :
    ∃ r, ofFields fields = .error r ∧ r.cls = .unknownEventKind := by
  unfold ofFields
  cases hkind : fields.get? "kind" with
  | some v =>
    dsimp only
    cases hname : Tagged.kind? (v.asString?.getD "") with
    | none => exact ⟨_, rfl, rfl⟩
    | some kind =>
      refine absurd ?_ (h (.tagged kind))
      rw [Tagged.kind?_eq_some_iff] at hname
      cases v with
      | string s => exact hkind.trans (congrArg (some ∘ Json.string) hname)
      | _ => cases kind <;> simp [Json.asString?, EventKind.name] at hname
  | none =>
    dsimp only
    cases hform : Wire.form? fields with
    | none => exact ⟨_, rfl, rfl⟩
    | some form => exact absurd ((Wire.form?_eq_some_iff hkind).mp hform) (h (.wire form))

/-! ### Fields of no concern -/

/-- The names of the fields of a shape. -/
def Shape.names (shape : Shape) : List String := shape.rules.map (·.name)

theorem Json.field_restrict {α : Type} {l : Layout} {index : Nat} {f : Member α}
    {names : List String} (hname : f.name ∈ names) :
    (Given.named (fields.restrict names)).field l index f =
      (Given.named fields).field l index f := by
  simp only [Given.field, get?_restrict hname]

theorem Shape.check_restrict (shape : Shape) (fields : Fields) :
    shape.layout.check (fields.restrict shape.names) = shape.layout.check fields := by
  refine Layout.check_restrict shape.closed_layout ?_
  rcases shape with (_ | _ | _) | (_ | _ | _) <;> decide

theorem Tagged.read_restrict (kind : EventKind) (fields : Fields) :
    read kind (fields.restrict (Shape.tagged kind).names) = read kind fields := by
  have hcheck := (Shape.tagged kind).check_restrict fields
  cases kind
  all_goals
    simp only [Shape.layout] at hcheck
    simp (disch := decide) only [read, readFields, hcheck, Json.field_restrict]

theorem Wire.read_restrict (form : WireForm) (fields : Fields) :
    read form (fields.restrict (Shape.wire form).names) = read form fields := by
  have hcheck := (Shape.wire form).check_restrict fields
  cases form
  all_goals
    simp only [Shape.layout] at hcheck
    simp (disch := decide) only [read, readFields, hcheck, Json.field_restrict]

/-- Fields that are not of the shape of an object make no difference. -/
theorem Event.ofFields_eq_of_restrict_eq (h : shape.Chosen fields) (hother : shape.Chosen other)
    (heq : other.restrict shape.names = fields.restrict shape.names) :
    ofFields other = ofFields fields := by
  cases shape with
  | tagged kind =>
    rw [ofFields_of_chosen_tagged h, ofFields_of_chosen_tagged hother, ← Tagged.read_restrict, heq,
      Tagged.read_restrict]
  | wire form =>
    rw [ofFields_of_chosen_wire h, ofFields_of_chosen_wire hother, ← Wire.read_restrict, heq,
      Wire.read_restrict]

end QueryWatch
