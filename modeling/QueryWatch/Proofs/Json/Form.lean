import QueryWatch.Json.Form
import QueryWatch.Proofs.Json.RoundTrip

/-!
Values and records are read as values of their types from the texts they are written as. A record's
object may have its fields in any order: they fill the draft one after another (`Form.Fills`), and
once they are all read the draft is finished (`Form.scan_text`).
-/

set_option autoImplicit false

namespace QueryWatch.Json

open Text (Bytes)
open Text.Utf8 (encodeChars)

/-! ### Values -/

section Values

variable {α : Type} {fuel : Nat} {rest : Bytes} {a : α}

/-- A string is read from its text. -/
theorem scanAsString_text {s : String} (hfuel : (encodeChars (text (.string s))).length < fuel)
    (expected : String) (rest : Bytes) :
    scanAsString fuel expected (encodeChars (text (.string s)) ++ rest) = .ok (s, rest) := by
  rw [text_string, encodeChars_stringText] at hfuel ⊢
  simp only [List.length_cons, List.length_append] at hfuel
  simp only [List.cons_append, List.append_assoc, List.nil_append]
  exact scanString_escaped s (by omega) rest

/-- A truth value is read from its text. -/
theorem scanAsBool_text (fuel : Nat) (b : Bool) (rest : Bytes) :
    scanAsBool fuel (encodeChars (text (.bool b)) ++ rest) = .ok (b, rest) := by
  cases b <;> rfl

/-- A number is read from its text, if it is of the type. -/
theorem scanAsNumber_text {read : Read α} {n : Nat} (hn : n < UInt64.size)
    (hread : read (nat n) = .ok a) (hrest : EndsNumber rest) (fuel : Nat) (expected : String) :
    scanAsNumber fuel read expected (encodeChars (nat n).text ++ rest) = .ok (a, rest) := by
  obtain ⟨b, tail, hcons, hb⟩ := exists_encodeChars_toDigits n
  have hplain : Plain 0 (nat n) := .nat hn
  obtain ⟨c, more, hfirst, hspace, -⟩ := exists_text_eq_cons hplain
  have hnumber := scanNumber_toDigits hn hrest
  rw [text_nat] at hfirst ⊢
  obtain rfl : b = c := (List.cons.inj (hcons.symm.trans hfirst)).1
  rw [hcons, List.cons_append] at hnumber ⊢
  unfold scanAsNumber
  rw [skipSpace_cons hspace]
  dsimp only
  have hminus : b ≠ 45 := by
    rintro rfl
    exact absurd hb (by decide)
  rw [if_pos (by rw [hb, Bool.or_true]), if_neg hminus, hnumber]
  dsimp only
  rw [show Json.number (.whole (n : Int)) = nat n from rfl, hread]

theorem scanAsOptional_null (scan : ScanAs α) (rest : Bytes) :
    scanAsOptional scan (encodeChars (text .null) ++ rest) = .ok (none, rest) := rfl

/-- What is not null is read from its text as a value that is present. -/
theorem scanAsOptional_text {scan : ScanAs α} {depth : Nat} {j : Json} (hj : Plain depth j)
    (hnull : j ≠ .null) (hscan : scan (encodeChars j.text ++ rest) = .ok (a, rest)) :
    scanAsOptional scan (encodeChars j.text ++ rest) = .ok (some a, rest) := by
  obtain ⟨b, tail, hcons, hspace, -, hfirst⟩ := exists_text_eq_cons hj
  rw [hcons, List.cons_append] at hscan ⊢
  unfold scanAsOptional
  rw [skipSpace_cons hspace]
  split
  next r heq => exact absurd (hfirst (List.cons.inj heq).1) hnull
  next => rw [hscan]

/-- A text or null is read as a text that is present or absent. -/
theorem scanAsOptional_optString {s : Option String}
    (hfuel : (encodeChars (optString s).text).length < fuel) (expected : String) (rest : Bytes) :
    scanAsOptional (scanAsString fuel expected) (encodeChars (optString s).text ++ rest) =
      .ok (s, rest) := by
  cases s with
  | none => exact scanAsOptional_null _ rest
  | some s =>
    have hs : Plain 0 (.string s) := .string s
    exact scanAsOptional_text hs nofun (scanAsString_text hfuel expected rest)

/-- A value that is not null, or null in place of an absent one, is read as it is. -/
theorem scanAsOptional_getD {depth : Nat} {j : Option Json} (hplain : ∀ v ∈ j, Plain depth v)
    (hnull : ∀ v ∈ j, v ≠ .null) (hfuel : (encodeChars (j.getD .null).text).length < fuel)
    (hrest : EndsNumber rest) :
    scanAsOptional (scanValue fuel depth) (encodeChars (j.getD .null).text ++ rest) =
      .ok (j, rest) := by
  cases j with
  | none => exact scanAsOptional_null _ rest
  | some v =>
    have hv := hplain v rfl
    exact scanAsOptional_text hv (hnull v rfl) (scanValue_text hv hfuel hrest)

/-- One of some names is read from its text. -/
theorem scanVariant_text {variants : List (String × α)} {name : String}
    (hlookup : variants.lookup name = some a)
    (hfuel : (encodeChars (text (.string name))).length < fuel) (rest : Bytes) :
    scanVariant fuel variants (encodeChars (text (.string name)) ++ rest) = .ok (a, rest) := by
  have hname : scanName? fuel variants (encodeChars (text (.string name)) ++ rest) =
      .ok (a, rest) := by
    rw [scanName?, scanAsString_text hfuel]
    dsimp only
    rw [hlookup]
  rw [text_string, encodeChars_stringText] at hname ⊢
  exact hname

end Values

/-! ### Records -/

namespace Form

variable {σ α : Type} (f : Form σ)

/-- Fields fill a draft one after another: each is one of the form that the draft does not have yet,
and its value is read from its text into the draft. -/
inductive Fills : (draft : σ) → Fields → (filled : σ) → Prop
  | nil (draft : σ) : Fills draft [] draft
  | cons {draft next filled : σ} {name : String} {j : Json} {fields : Fields} {slot : Slot σ}
    (hslot : f.slots.find? (·.name == name) = some slot) (hgiven : slot.given draft = false)
    (hscan : ∀ rest, EndsNumber rest →
      slot.scan draft (encodeChars j.text ++ rest) = .ok (next, rest))
    (hfields : Fills next fields filled) : Fills draft ((name, j) :: fields) filled

variable {f}

/-- The next field fills the draft if its value is read and put into it. -/
theorem Fills.of {draft filled : σ} {name : String} {j : Json} {fields : Fields}
    {get : σ → Option α} {put : σ → α → σ} {scan : ScanAs α} {omissible : Bool} {a : α}
    (hslot : f.slots.find? (·.name == name) = some (Slot.of name get put scan omissible))
    (hget : get draft = none)
    (hscan : ∀ rest, EndsNumber rest → scan (encodeChars j.text ++ rest) = .ok (a, rest))
    (hfields : f.Fills (put draft a) fields filled) :
    f.Fills draft ((name, j) :: fields) filled := by
  refine .cons hslot ?_ (fun rest hrest ↦ ?_) hfields
  · show (get draft).isSome = false
    rw [hget]
    rfl
  · dsimp only [Slot.of]
    rw [hscan rest hrest]

section Step

variable {fuel : Nat} {name : String} {slot : Slot σ} {draft next : σ} {s rest : Bytes}

/-- A field that the draft does not have yet may come next. -/
theorem refusal_of_slot (hslot : f.slots.find? (·.name == name) = some slot)
    (hgiven : slot.given draft = false) : f.refusal draft name = none := by
  rw [refusal, hslot]
  dsimp only
  rw [hgiven, if_neg Bool.false_ne_true]

theorem scanField_of_slot (hslot : f.slots.find? (·.name == name) = some slot) :
    f.scanField fuel name draft (58 :: s) = slot.scan draft s := by
  rw [scanField, hslot]
  rfl

/-- The last field is read, and the end of the object. -/
theorem scanFields_last (hslot : f.slots.find? (·.name == name) = some slot)
    (hgiven : slot.given draft = false) (hfuel : (escaped name.toList).length < fuel)
    (hscan : slot.scan draft s = .ok (next, 125 :: rest)) (rounds : Nat) :
    f.scanFields fuel (rounds + 1) draft (escaped name.toList ++ 34 :: 58 :: s) =
      .ok (next, rest) := by
  rw [scanFields, scanString_escaped name hfuel]
  dsimp only
  rw [refusal_of_slot hslot hgiven]
  dsimp only
  rw [scanField_of_slot hslot, hscan]
  rfl

/-- A field is read, and the comma and the quote behind it. -/
theorem scanFields_comma (hslot : f.slots.find? (·.name == name) = some slot)
    (hgiven : slot.given draft = false) (hfuel : (escaped name.toList).length < fuel)
    (hscan : slot.scan draft s = .ok (next, 44 :: 34 :: rest)) (rounds : Nat) :
    f.scanFields fuel (rounds + 1) draft (escaped name.toList ++ 34 :: 58 :: s) =
      f.scanFields fuel rounds next rest := by
  rw [scanFields, scanString_escaped name hfuel]
  dsimp only
  rw [refusal_of_slot hslot hgiven]
  dsimp only
  rw [scanField_of_slot hslot, hscan]
  rfl

end Step

/-- Fields that fill a draft are read into it from their texts, behind the first quote. -/
theorem scanFields_text {fuel : Nat} {draft filled : σ} {p : String × Json} {fields : Fields}
    (hfills : f.Fills draft (p :: fields) filled)
    (hnames : ∀ q ∈ p :: fields, (escaped q.1.toList).length < fuel) {rounds : Nat}
    (hrounds : fields.length < rounds) (rest : Bytes) :
    ∃ s, encodeChars (separated [','] ((p :: fields).map fieldText)) = 34 :: s ∧
      f.scanFields fuel rounds draft (s ++ 125 :: rest) = .ok (filled, rest) := by
  obtain ⟨rounds, rfl⟩ := Nat.exists_eq_succ_of_ne_zero (show rounds ≠ 0 by omega)
  induction fields generalizing draft p rounds with
  | nil =>
    cases hfills with
    | @cons _ next _ name j _ slot hslot hgiven hscan hrest =>
      have hname := hnames (name, j) List.mem_cons_self
      cases hrest
      refine ⟨escaped name.toList ++ 34 :: 58 :: encodeChars j.text, ?_, ?_⟩
      · rw [List.map_singleton, separated_singleton, encodeChars_fieldText]
      · rw [List.append_assoc]
        exact scanFields_last hslot hgiven hname (hscan _ (endsNumber_cons (by decide) rest)) rounds
  | cons second fields ih =>
    rw [List.length_cons] at hrounds
    obtain ⟨rounds, rfl⟩ := Nat.exists_eq_succ_of_ne_zero (show rounds ≠ 0 by omega)
    cases hfills with
    | @cons _ next _ name j _ slot hslot hgiven hscan hrest =>
      have hname := hnames (name, j) List.mem_cons_self
      obtain ⟨s, hs, hsecond⟩ := ih hrest (fun q hq ↦ hnames q (List.mem_cons_of_mem _ hq)) rounds
        (Nat.lt_of_succ_lt_succ hrounds)
      rw [List.map_cons] at hs
      refine ⟨escaped name.toList ++ 34 :: 58 :: (encodeChars j.text ++ 44 :: 34 :: s), ?_, ?_⟩
      · rw [List.map_cons, List.map_cons, encodeChars_separated_cons_cons, hs,
          encodeChars_fieldText]
        simp only [List.cons_append, List.append_assoc]
      · simp only [List.cons_append, List.append_assoc]
        rw [scanFields_comma hslot hgiven hname (hscan _ (endsNumber_cons (by decide) _)), hsecond]

/-- The fields that fill a draft are read into it, behind the opening brace. -/
theorem scanObject_text {fuel : Nat} {draft filled : σ} {fields : Fields}
    (hfills : f.Fills draft fields filled)
    (hnames : ∀ p ∈ fields, (escaped p.1.toList).length < fuel) (hrounds : fields.length < fuel)
    (rest : Bytes) :
    f.scanObject fuel draft (encodeChars (separated [','] (fields.map fieldText)) ++ 125 :: rest) =
      .ok (filled, rest) := by
  cases fields with
  | nil =>
    cases hfills
    rfl
  | cons p fields =>
    obtain ⟨s, hs, hscan⟩ := scanFields_text hfills hnames (Nat.lt_of_succ_lt hrounds) rest
    rw [hs, List.cons_append]
    exact hscan

/-- A record is read from the text of an object whose fields fill a draft that can be finished. -/
theorem scan_text {fuel depth : Nat} {draft filled : σ} {fields : Fields} {a : α}
    (hfills : f.Fills draft fields filled) (finish : σ → Except Mismatch α)
    (hfinish : finish filled = .ok a)
    (hfuel : (encodeChars (text (.object fields))).length < fuel) (rest : Bytes) :
    f.scan fuel (depth + 1) draft finish (encodeChars (text (.object fields)) ++ rest) =
      .ok (a, rest) := by
  have hcount := Nat.lt_trans (length_fields_lt_object fields) hfuel
  have hnames : ∀ p ∈ fields, (escaped p.1.toList).length < fuel := fun p hp ↦
    Nat.lt_trans (length_lt_object hp).1 hfuel
  rw [encodeChars_object]
  simp only [List.cons_append, List.append_assoc, List.nil_append]
  unfold scan
  rw [skipSpace_cons (by decide)]
  dsimp only
  rw [if_pos rfl, if_neg (Nat.succ_ne_zero depth), scanObject_text hfills hnames hcount]
  dsimp only [placed]
  rw [hfinish]

end Form
end QueryWatch.Json
