import Mathlib.Data.List.Basic
import QueryWatch.Json.Reader
import QueryWatch.Proofs.Json.NumberText
import QueryWatch.Proofs.Json.StringText

/-!
Values are read back as they are written. `Plain depth j` holds of the values that are made of null,
truth values, whole numbers of 64 bits from zero on, strings, lists and objects with their fields in
order, nested at most `depth` deep. The text of such a value is read as that value, whatever comes
behind it that does not go on with a number (`scanValue_text`). Lists and objects are read item by
item (`scanList_text`, `scanObject_text`), and no control character is written (`le_of_mem_text`).
-/

set_option autoImplicit false

namespace QueryWatch.Json

open Text (Bytes)
open Text.Utf8 (encodeChar encodeChars encodeChars_nil encodeChars_cons encodeChars_append)

/-- A value without negative or rounded numbers, its fields in ascending order of their names, with
lists and objects nested at most `depth` deep. -/
inductive Plain : (depth : Nat) → Json → Prop
  | null {depth : Nat} : Plain depth .null
  | bool {depth : Nat} (b : Bool) : Plain depth (.bool b)
  | nat {depth n : Nat} (hn : n < UInt64.size) : Plain depth (nat n)
  | string {depth : Nat} (s : String) : Plain depth (.string s)
  | array {depth : Nat} {items : List Json} (hitems : ∀ j ∈ items, Plain depth j) :
    Plain (depth + 1) (.array items)
  | object {depth : Nat} {fields : Fields} (hordered : fields.Pairwise fun p q ↦ p.1 < q.1)
    (hfields : ∀ p ∈ fields, Plain depth p.2) : Plain (depth + 1) (.object fields)

/-! ### Plain values -/

namespace Plain

variable {α : Type} {depth : Nat} {toJson : α → Json}

/-- A number that is no larger than one of 64 bits. -/
theorem nat_of_le {m n : Nat} (hm : m ≤ n) (hn : n < UInt64.size) : Plain depth (Json.nat m) :=
  .nat (Nat.lt_of_le_of_lt hm hn)

/-- A value or null is a plain value if the value is. -/
theorem elim {x : Option α} (h : ∀ a ∈ x, Plain depth (toJson a)) :
    Plain depth (x.elim .null toJson) := by
  cases x with
  | none => exact .null
  | some a => exact h a rfl

theorem optString (s : Option String) : Plain depth (Json.optString s) := by
  cases s with
  | none => exact .null
  | some s => exact .string s

theorem map {items : List α} (h : ∀ a ∈ items, Plain depth (toJson a)) :
    Plain (depth + 1) (.array (items.map toJson)) := by
  refine .array fun j hj ↦ ?_
  obtain ⟨a, ha, rfl⟩ := List.mem_map.mp hj
  exact h a ha

theorem strings (texts : List String) : Plain (depth + 1) (Json.strings texts) :=
  .map fun s _ ↦ .string s

end Plain

/-! ### Separated texts -/

section Separated

variable {texts : List (List Char)}

theorem separated_cons_cons (first second : List Char) (texts : List (List Char)) :
    separated [','] (first :: second :: texts) =
      first ++ ',' :: separated [','] (second :: texts) := by
  simp [separated, List.intercalate]

theorem separated_singleton (text : List Char) : separated [','] [text] = text := by
  simp [separated, List.intercalate]

/-- Separated texts start with the first of them. -/
theorem exists_encodeChars_separated (first : List Char) (texts : List (List Char)) :
    ∃ more, encodeChars (separated [','] (first :: texts)) = encodeChars first ++ more := by
  cases texts with
  | nil => exact ⟨[], by rw [separated_singleton, List.append_nil]⟩
  | cons second texts => exact ⟨_, by rw [separated_cons_cons, encodeChars_append]⟩

theorem encodeChars_separated_cons_cons (first second : List Char) (texts : List (List Char)) :
    encodeChars (separated [','] (first :: second :: texts)) =
      encodeChars first ++ 44 :: encodeChars (separated [','] (second :: texts)) := by
  rw [separated_cons_cons, encodeChars_append, encodeChars_cons]
  rfl

theorem mem_separated {c : Char} (hc : c ∈ separated [','] texts) :
    c = ',' ∨ ∃ t ∈ texts, c ∈ t := by
  induction texts with
  | nil => cases hc
  | cons first texts ih =>
    cases texts with
    | nil =>
      rw [separated_singleton] at hc
      exact Or.inr ⟨first, List.mem_cons_self, hc⟩
    | cons second texts =>
      rw [separated_cons_cons, List.mem_append, List.mem_cons] at hc
      rcases hc with hc | hc | hc
      · exact Or.inr ⟨first, List.mem_cons_self, hc⟩
      · exact Or.inl hc
      · exact (ih hc).imp_right fun ⟨t, ht, hct⟩ ↦ ⟨t, List.mem_cons_of_mem _ ht, hct⟩

/-- The bytes of separated texts are at least those of each of them. -/
theorem length_le_separated {t : List Char} (ht : t ∈ texts) :
    (encodeChars t).length ≤ (encodeChars (separated [','] texts)).length := by
  induction texts with
  | nil => cases ht
  | cons first texts ih =>
    cases texts with
    | nil =>
      exact Nat.le_of_eq (by rw [separated_singleton, List.mem_singleton.mp ht])
    | cons second texts =>
      rw [separated_cons_cons, encodeChars_append, encodeChars_cons, List.length_append,
        List.length_append]
      rcases List.mem_cons.mp ht with rfl | ht
      · exact Nat.le_add_right _ _
      · exact Nat.le_trans (ih ht) (by omega)

/-- There are at most as many texts as bytes, with one more for the last one. -/
theorem length_texts_le (texts : List (List Char)) :
    texts.length ≤ (encodeChars (separated [','] texts)).length + 1 := by
  induction texts with
  | nil => exact Nat.zero_le _
  | cons first texts ih =>
    cases texts with
    | nil => exact Nat.le_add_left _ _
    | cons second texts =>
      have hcomma : (encodeChar ',').length = 1 := rfl
      rw [separated_cons_cons, encodeChars_append, encodeChars_cons, List.length_append,
        List.length_append, hcomma, List.length_cons]
      omega

end Separated

theorem itemTexts_eq (items : List Json) : itemTexts items = items.map text := by
  induction items with
  | nil => rfl
  | cons item rest ih => rw [itemTexts, ih, List.map_cons]

/-- The text of a field. -/
def fieldText (p : String × Json) : List Char := stringText p.1 ++ ':' :: text p.2

theorem fieldTexts_eq (fields : Fields) : fieldTexts fields = fields.map fieldText := by
  induction fields with
  | nil => rfl
  | cons p rest ih => rw [fieldTexts, ih, List.map_cons, fieldText]

theorem text_string (s : String) : (string s).text = stringText s := rfl

theorem text_array (items : List Json) :
    (array items).text = '[' :: separated [','] (items.map text) ++ [']'] := by
  rw [← itemTexts_eq]
  rfl

theorem text_object (fields : Fields) :
    (object fields).text = '\x7b' :: separated [','] (fields.map fieldText) ++ ['\x7d'] := by
  rw [← fieldTexts_eq]
  rfl

theorem encodeChars_array (items : List Json) :
    encodeChars (array items).text =
      91 :: (encodeChars (separated [','] (items.map text)) ++ [93]) := by
  rw [text_array, List.cons_append, encodeChars_cons, encodeChars_append]
  rfl

theorem encodeChars_object (fields : Fields) :
    encodeChars (object fields).text =
      123 :: (encodeChars (separated [','] (fields.map fieldText)) ++ [125]) := by
  rw [text_object, List.cons_append, encodeChars_cons, encodeChars_append]
  rfl

theorem encodeChars_fieldText (p : String × Json) :
    encodeChars (fieldText p) = 34 :: (escaped p.1.toList ++ 34 :: 58 :: encodeChars p.2.text) := by
  rw [fieldText, encodeChars_append, encodeChars_cons, encodeChars_stringText]
  simp only [List.cons_append, List.append_assoc]
  rfl

/-- The bytes of a list are more than those of each item. -/
theorem length_lt_array {items : List Json} {j : Json} (hj : j ∈ items) :
    (encodeChars j.text).length < (encodeChars (array items).text).length := by
  have hitem := length_le_separated (List.mem_map_of_mem (f := text) hj)
  rw [encodeChars_array]
  simp only [List.length_cons, List.length_append]
  omega

/-- There are fewer items than bytes in a list. -/
theorem length_items_lt_array (items : List Json) :
    items.length < (encodeChars (array items).text).length := by
  have hlength := length_texts_le (items.map text)
  rw [List.length_map] at hlength
  rw [encodeChars_array]
  simp only [List.length_cons, List.length_append]
  omega

/-- The bytes of an object are more than those of the name and of the value of each field. -/
theorem length_lt_object {fields : Fields} {p : String × Json} (hp : p ∈ fields) :
    (escaped p.1.toList).length < (encodeChars (object fields).text).length ∧
      (encodeChars p.2.text).length < (encodeChars (object fields).text).length := by
  have hfield := length_le_separated (List.mem_map_of_mem (f := fieldText) hp)
  rw [encodeChars_fieldText] at hfield
  rw [encodeChars_object]
  simp only [List.length_cons, List.length_append] at hfield ⊢
  omega

/-- There are fewer fields than bytes in an object. -/
theorem length_fields_lt_object (fields : Fields) :
    fields.length < (encodeChars (object fields).text).length := by
  have hlength := length_texts_le (fields.map fieldText)
  rw [List.length_map] at hlength
  rw [encodeChars_object]
  simp only [List.length_cons, List.length_append]
  omega

theorem text_nat (n : Nat) : (nat n).text = Nat.toDigits 10 n := by
  rw [nat, text, Number.text]
  show (Nat.repr n).toList = _
  rw [Nat.repr_eq_ofList_toDigits, String.toList_ofList]

/-- No control character stands in the text of an object if none stands in the values of its
fields. -/
theorem le_of_mem_object {fields : Fields} (hfields : ∀ p ∈ fields, ∀ c ∈ p.2.text, 32 ≤ c.toNat)
    {c : Char} (hc : c ∈ (object fields).text) : 32 ≤ c.toNat := by
  rw [text_object, List.cons_append, List.mem_cons, List.mem_append, List.mem_singleton] at hc
  rcases hc with rfl | hc | rfl
  · decide
  · rcases mem_separated hc with rfl | ⟨t, ht, hct⟩
    · decide
    · obtain ⟨p, hp, rfl⟩ := List.mem_map.mp ht
      rw [fieldText, List.mem_append, List.mem_cons] at hct
      rcases hct with hct | rfl | hct
      · exact le_of_mem_stringText hct
      · decide
      · exact hfields p hp c hct
  · decide

/-- No control character stands in the text of a value. -/
theorem le_of_mem_text {depth : Nat} {j : Json} (hj : Plain depth j) {c : Char}
    (hc : c ∈ j.text) : 32 ≤ c.toNat := by
  induction hj generalizing c with
  | null =>
    have hword : ∀ a ∈ "null".toList, 32 ≤ a.toNat := by simp
    exact hword c hc
  | bool b =>
    have htrue : ∀ a ∈ "true".toList, 32 ≤ a.toNat := by simp
    have hfalse : ∀ a ∈ "false".toList, 32 ≤ a.toNat := by simp
    cases b with
    | true => exact htrue c hc
    | false => exact hfalse c hc
  | nat hn =>
    rw [text_nat] at hc
    have hdigit := Nat.isDigit_of_mem_toDigits (by omega) (by omega) hc
    exact Nat.le_trans (by decide) (Char.isDigit_iff_toNat.mp hdigit).1
  | string s => exact le_of_mem_stringText hc
  | array hitems ih =>
    rw [text_array, List.cons_append, List.mem_cons, List.mem_append, List.mem_singleton] at hc
    rcases hc with rfl | hc | rfl
    · decide
    · rcases mem_separated hc with rfl | ⟨t, ht, hct⟩
      · decide
      · obtain ⟨j, hj, rfl⟩ := List.mem_map.mp ht
        exact ih j hj hct
    · decide
  | object hordered hfields ih => exact le_of_mem_object (fun p hp c ↦ ih p hp) hc

/-- No control character stands in the bytes of an object of such values. -/
theorem le_of_mem_encodeChars_object {depth : Nat} {fields : Fields}
    (hfields : ∀ p ∈ fields, Plain depth p.2) {b : UInt8}
    (hb : b ∈ encodeChars (object fields).text) : 32 ≤ b := by
  obtain ⟨c, hc, hbyte⟩ := Text.Utf8.mem_encodeChars.mp hb
  have hle := le_of_mem_object (fun p hp c hc ↦ le_of_mem_text (hfields p hp) hc) hc
  by_contra hnot
  have hlt : b < 32 := UInt8.not_le.mp hnot
  have hnumber := Text.Utf8.toNat_eq_of_mem_encodeChar hbyte (UInt8.lt_trans hlt (by decide))
  rw [hnumber] at hle
  exact hnot hle

/-! ### Where a value starts -/

theorem skipSpace_cons {c : UInt8} (hc : isSpace c = false) (rest : Bytes) :
    skipSpace (c :: rest) = c :: rest := by
  rw [skipSpace, List.dropWhile_cons_of_neg (by rw [hc]; exact Bool.false_ne_true)]

theorem endsNumber_cons {c : UInt8} (hc : isDigit c = false ∧ c ≠ 46 ∧ c ≠ 69 ∧ c ≠ 101)
    (rest : Bytes) : EndsNumber (c :: rest) := by
  intro b hb
  cases hb
  exact hc

section FirstByte

variable (fuel depth : Nat) (rest : Bytes)

theorem scanValue_null :
    scanValue fuel depth (encodeChars (text .null) ++ rest) = .ok (.null, rest) := by
  cases depth <;> rfl

theorem scanValue_bool (b : Bool) :
    scanValue fuel depth (encodeChars (text (.bool b)) ++ rest) = .ok (.bool b, rest) := by
  cases depth <;> cases b <;> rfl

theorem scanValue_quote : scanValue fuel depth (34 :: rest) = scanStringValue fuel rest := by
  cases depth <;> rfl

theorem scanValue_bracket :
    scanValue fuel (depth + 1) (91 :: rest) = scanList (scanValue fuel depth) fuel rest := rfl

theorem scanValue_brace :
    scanValue fuel (depth + 1) (123 :: rest) = scanObject (scanValue fuel depth) fuel rest := rfl

theorem scanValue_digit {c : UInt8} (hc : isDigit c = true) :
    scanValue fuel depth (c :: rest) = scanNumberValue false (c :: rest) := by
  have hne : ∀ d, isDigit d = false → c ≠ d := by
    rintro d hd rfl
    rw [hc] at hd
    cases hd
  have hspace : isSpace c = false := by
    simp [isSpace, hne 32 rfl, hne 10 rfl, hne 9 rfl, hne 13 rfl]
  rw [scanValue.eq_def]
  dsimp only
  rw [skipSpace_cons hspace]
  dsimp only
  rw [if_neg (hne 110 rfl), if_neg (hne 116 rfl), if_neg (hne 102 rfl), if_neg (hne 45 rfl),
    if_pos hc]

end FirstByte

theorem scanValue_nat {n fuel depth : Nat} {rest : Bytes} (hn : n < UInt64.size)
    (hrest : EndsNumber rest) :
    scanValue fuel depth (encodeChars (nat n).text ++ rest) = .ok (nat n, rest) := by
  obtain ⟨b, r, hcons, hb⟩ := exists_encodeChars_toDigits n
  have hnumber := scanNumber_toDigits hn hrest
  rw [text_nat]
  rw [hcons, List.cons_append] at hnumber ⊢
  rw [scanValue_digit fuel depth _ hb, scanNumberValue, hnumber]
  rfl

theorem scanStringValue_escaped (s : String) {fuel : Nat}
    (hfuel : (escaped s.toList).length < fuel) (rest : Bytes) :
    scanStringValue fuel (escaped s.toList ++ 34 :: rest) = .ok (.string s, rest) := by
  rw [scanStringValue, scanString_escaped s hfuel]

/-- The text of a value starts with a byte that is neither white space nor the end of a list, and
with the letter of null only if it is null. -/
theorem exists_text_eq_cons {depth : Nat} {j : Json} (hj : Plain depth j) :
    ∃ b rest, encodeChars j.text = b :: rest ∧ isSpace b = false ∧ b ≠ 93 ∧
      (b = 110 → j = .null) := by
  cases hj with
  | null => exact ⟨110, [117, 108, 108], rfl, rfl, by decide, fun _ ↦ rfl⟩
  | bool b =>
    cases b with
    | true => exact ⟨116, [114, 117, 101], rfl, rfl, by decide, fun heq ↦ absurd heq (by decide)⟩
    | false =>
      exact ⟨102, [97, 108, 115, 101], rfl, rfl, by decide, fun heq ↦ absurd heq (by decide)⟩
  | @nat _ n hn =>
    obtain ⟨b, rest, hcons, hb⟩ := exists_encodeChars_toDigits n
    have hne : ∀ d, isDigit d = false → b ≠ d := by
      rintro d hd rfl
      rw [hb] at hd
      cases hd
    refine ⟨b, rest, by rw [text_nat, hcons], ?_, hne 93 rfl, fun heq ↦ absurd heq (hne 110 rfl)⟩
    simp [isSpace, hne 32 rfl, hne 10 rfl, hne 9 rfl, hne 13 rfl]
  | string s =>
    refine ⟨34, escaped s.toList ++ [34], ?_, rfl, by decide, fun heq ↦ absurd heq (by decide)⟩
    rw [text_string, encodeChars_stringText]
  | array hitems =>
    exact ⟨91, _, encodeChars_array _, rfl, by decide, fun heq ↦ absurd heq (by decide)⟩
  | object hordered hfields =>
    exact ⟨123, _, encodeChars_object _, rfl, by decide, fun heq ↦ absurd heq (by decide)⟩

/-! ### Lists -/

section Items

variable {item : Bytes → Scan Json} {s rest : Bytes} {j : Json}

/-- The last item of a list is read, and the end of the list. -/
theorem scanItems_last (hitem : item s = .ok (j, 93 :: rest)) (rounds : Nat) (read : List Json) :
    scanItems item (rounds + 1) read s = .ok (.array (j :: read).reverse, rest) := by
  rw [scanItems, hitem]
  rfl

/-- An item of a list is read, and the comma behind it. -/
theorem scanItems_comma {c : UInt8} (hitem : item s = .ok (j, 44 :: c :: rest))
    (hspace : isSpace c = false) (hend : c ≠ 93) (rounds : Nat) (read : List Json) :
    scanItems item (rounds + 1) read s = scanItems item rounds (j :: read) (c :: rest) := by
  rw [scanItems, hitem]
  dsimp only
  rw [skipSpace_cons (by decide)]
  dsimp only
  rw [if_neg (by decide), if_pos rfl, skipSpace_cons hspace]
  dsimp only
  rw [if_neg hend]

theorem scanList_cons {c : UInt8} (hspace : isSpace c = false) (hend : c ≠ 93) (rounds : Nat) :
    scanList item rounds (c :: rest) = scanItems item rounds [] (c :: rest) := by
  rw [scanList, skipSpace_cons hspace]
  exact if_neg hend

variable (item) in
/-- Items that are read back one by one are read back as a list of them. -/
theorem scanItems_text (first : Json) (items : List Json)
    (hitems : ∀ j ∈ first :: items, ∀ rest, EndsNumber rest →
      item (encodeChars j.text ++ rest) = .ok (j, rest))
    (hstart : ∀ j ∈ first :: items, ∃ b rest, encodeChars j.text = b :: rest ∧
      isSpace b = false ∧ b ≠ 93)
    {rounds : Nat} (hrounds : items.length < rounds) (read : List Json) (rest : Bytes) :
    scanItems item rounds read
        (encodeChars (separated [','] ((first :: items).map text)) ++ 93 :: rest) =
      .ok (.array (read.reverse ++ first :: items), rest) := by
  have hfirst := hitems first List.mem_cons_self
  induction items generalizing first rounds read with
  | nil =>
    obtain ⟨rounds, rfl⟩ := Nat.exists_eq_succ_of_ne_zero (Nat.ne_of_gt hrounds)
    rw [List.map_singleton, separated_singleton,
      scanItems_last (hfirst _ (endsNumber_cons (by decide) rest)), List.reverse_cons]
  | cons second items ih =>
    rw [List.length_cons] at hrounds
    obtain ⟨rounds, rfl⟩ := Nat.exists_eq_succ_of_ne_zero (show rounds ≠ 0 by omega)
    have hother : ∀ j ∈ second :: items, j ∈ first :: second :: items := fun j hj ↦
      List.mem_cons_of_mem _ hj
    have hrest := ih second (fun j hj ↦ hitems j (hother j hj)) (fun j hj ↦ hstart j (hother j hj))
      (Nat.lt_of_succ_lt_succ hrounds) (first :: read) (hitems second (by simp))
    -- The second item starts what comes behind the comma.
    obtain ⟨b, tail, hcons, hspace, hend⟩ := hstart second (by simp)
    obtain ⟨more, hmore⟩ := exists_encodeChars_separated second.text (items.map text)
    rw [List.map_cons, hmore, hcons] at hrest
    rw [List.map_cons, List.map_cons, encodeChars_separated_cons_cons, hmore, hcons]
    simp only [List.cons_append, List.append_assoc] at hrest ⊢
    rw [scanItems_comma (hfirst _ (endsNumber_cons (by decide) _)) hspace hend]
    refine hrest.trans ?_
    rw [List.reverse_cons, List.append_assoc]
    rfl

/-- A list whose items are read back one by one is read back, behind its opening bracket. -/
theorem scanList_text {items : List Json}
    (hitems : ∀ j ∈ items, ∀ rest, EndsNumber rest →
      item (encodeChars j.text ++ rest) = .ok (j, rest))
    (hstart : ∀ j ∈ items, ∃ b rest, encodeChars j.text = b :: rest ∧
      isSpace b = false ∧ b ≠ 93)
    {rounds : Nat} (hrounds : items.length < rounds) (rest : Bytes) :
    scanList item rounds (encodeChars (separated [','] (items.map text)) ++ 93 :: rest) =
      .ok (.array items, rest) := by
  cases items with
  | nil => rfl
  | cons first items =>
    have hscan := scanItems_text item first items hitems hstart (Nat.lt_of_succ_lt hrounds) [] rest
    obtain ⟨b, tail, hcons, hspace, hend⟩ := hstart first List.mem_cons_self
    obtain ⟨more, hmore⟩ := exists_encodeChars_separated first.text (items.map text)
    rw [List.map_cons, hmore, hcons] at hscan ⊢
    simp only [List.cons_append, List.append_assoc] at hscan ⊢
    rw [scanList_cons hspace hend]
    exact hscan

end Items

/-! ### Objects -/

section FieldsText

variable {value : Bytes → Scan Json} {fuel : Nat} {name : String} {s rest : Bytes} {j : Json}

theorem scanName_escaped (hfuel : (escaped name.toList).length < fuel) (rest : Bytes) :
    scanName fuel (escaped name.toList ++ 34 :: 58 :: rest) = .ok (name, rest) := by
  rw [scanName, scanString_escaped name hfuel]
  rfl

/-- The last field of an object is read, and the end of the object. -/
theorem scanFields_last (hfuel : (escaped name.toList).length < fuel)
    (hvalue : value s = .ok (j, 125 :: rest)) (rounds : Nat) (read : List (String × Json)) :
    scanFields value fuel (rounds + 1) read (escaped name.toList ++ 34 :: 58 :: s) =
      .ok (.object (Fields.ofRecent ((name, j) :: read)), rest) := by
  rw [scanFields, scanName_escaped hfuel]
  dsimp only
  rw [hvalue]
  rfl

/-- A field of an object is read, and the comma and the quote behind it. -/
theorem scanFields_comma (hfuel : (escaped name.toList).length < fuel)
    (hvalue : value s = .ok (j, 44 :: 34 :: rest)) (rounds : Nat) (read : List (String × Json)) :
    scanFields value fuel (rounds + 1) read (escaped name.toList ++ 34 :: 58 :: s) =
      scanFields value fuel rounds ((name, j) :: read) rest := by
  rw [scanFields, scanName_escaped hfuel]
  dsimp only
  rw [hvalue]
  rfl

variable (value) in
/-- Fields whose values are read back one by one are read back as those of an object, behind the
first quote. -/
theorem scanFields_text (first : String × Json) (fields : Fields)
    (hnames : ∀ p ∈ first :: fields, (escaped p.1.toList).length < fuel)
    (hvalues : ∀ p ∈ first :: fields, ∀ rest, EndsNumber rest →
      value (encodeChars p.2.text ++ rest) = .ok (p.2, rest))
    {rounds : Nat} (hrounds : fields.length < rounds) (read : List (String × Json))
    (rest : Bytes) :
    ∃ s, encodeChars (separated [','] ((first :: fields).map fieldText)) = 34 :: s ∧
      scanFields value fuel rounds read (s ++ 125 :: rest) =
        .ok (.object (Fields.ofRecent ((first :: fields).reverse ++ read)), rest) := by
  have hname := hnames first List.mem_cons_self
  have hfirst := hvalues first List.mem_cons_self
  obtain ⟨rounds, rfl⟩ := Nat.exists_eq_succ_of_ne_zero (show rounds ≠ 0 by omega)
  induction fields generalizing first rounds read with
  | nil =>
    refine ⟨escaped first.1.toList ++ 34 :: 58 :: encodeChars first.2.text, ?_, ?_⟩
    · rw [List.map_singleton, separated_singleton, encodeChars_fieldText]
    rw [List.append_assoc]
    exact scanFields_last hname (hfirst _ (endsNumber_cons (by decide) rest)) rounds read
  | cons second fields ih =>
    rw [List.length_cons] at hrounds
    obtain ⟨rounds, rfl⟩ := Nat.exists_eq_succ_of_ne_zero (show rounds ≠ 0 by omega)
    have hother : ∀ p ∈ second :: fields, p ∈ first :: second :: fields := fun p hp ↦
      List.mem_cons_of_mem _ hp
    obtain ⟨s, hs, hscan⟩ := ih second (fun p hp ↦ hnames p (hother p hp))
      (fun p hp ↦ hvalues p (hother p hp)) (first :: read) (hnames second (by simp))
      (hvalues second (by simp)) rounds (Nat.lt_of_succ_lt_succ hrounds)
    rw [List.map_cons] at hs
    refine ⟨escaped first.1.toList ++ 34 :: 58 :: (encodeChars first.2.text ++ 44 :: 34 :: s),
      ?_, ?_⟩
    · rw [List.map_cons, List.map_cons, encodeChars_separated_cons_cons, hs,
        encodeChars_fieldText]
      simp only [List.cons_append, List.append_assoc]
    · simp only [List.cons_append, List.append_assoc]
      rw [scanFields_comma hname (hfirst _ (endsNumber_cons (by decide) _)), hscan]
      simp only [List.reverse_cons, List.append_assoc, List.cons_append, List.nil_append]

/-- A field that comes before all others is put in front of them. -/
theorem insertAbsent_of_lt {value : Json} {fields : Fields} (hlt : ∀ p ∈ fields, name < p.1) :
    fields.insertAbsent name value = (name, value) :: fields := by
  cases fields with
  | nil => rfl
  | cons p fields =>
    obtain ⟨n, v⟩ := p
    rw [Fields.insertAbsent, if_pos (hlt (n, v) List.mem_cons_self)]

/-- Fields in order are the fields of the object they are read as. -/
theorem ofRecent_reverse {fields : Fields} (hordered : fields.Pairwise fun p q ↦ p.1 < q.1) :
    Fields.ofRecent fields.reverse = fields := by
  unfold Fields.ofRecent
  rw [List.foldl_reverse]
  induction fields with
  | nil => rfl
  | cons p fields ih =>
    obtain ⟨hfirst, hrest⟩ := List.pairwise_cons.mp hordered
    rw [List.foldr_cons, ih hrest]
    exact insertAbsent_of_lt hfirst

/-- An object whose values are read back one by one, with its fields in order, is read back, behind
its opening brace. -/
theorem scanObject_text {fields : Fields} (hordered : fields.Pairwise fun p q ↦ p.1 < q.1)
    (hnames : ∀ p ∈ fields, (escaped p.1.toList).length < fuel)
    (hvalues : ∀ p ∈ fields, ∀ rest, EndsNumber rest →
      value (encodeChars p.2.text ++ rest) = .ok (p.2, rest))
    (hrounds : fields.length < fuel) (rest : Bytes) :
    scanObject value fuel (encodeChars (separated [','] (fields.map fieldText)) ++ 125 :: rest) =
      .ok (.object fields, rest) := by
  cases fields with
  | nil => rfl
  | cons first fields =>
    obtain ⟨s, hs, hscan⟩ := scanFields_text value first fields hnames hvalues
      (Nat.lt_of_succ_lt hrounds) [] rest
    rw [List.append_nil, ofRecent_reverse hordered] at hscan
    rw [hs, List.cons_append]
    exact hscan

end FieldsText

/-! ### Values -/

/-- The text of a plain value is read as that value. -/
theorem scanValue_text {depth : Nat} {j : Json} (hj : Plain depth j) {fuel : Nat}
    (hfuel : (encodeChars j.text).length < fuel) {rest : Bytes} (hrest : EndsNumber rest) :
    scanValue fuel depth (encodeChars j.text ++ rest) = .ok (j, rest) := by
  induction hj generalizing rest with
  | @null depth => exact scanValue_null fuel depth rest
  | @bool depth b => exact scanValue_bool fuel depth rest b
  | nat hn => exact scanValue_nat hn hrest
  | @string depth s =>
    rw [text_string, encodeChars_stringText] at hfuel ⊢
    simp only [List.length_cons, List.length_append] at hfuel
    simp only [List.cons_append, List.append_assoc, List.nil_append]
    rw [scanValue_quote, scanStringValue_escaped s (by omega)]
  | @array depth items hitems ih =>
    have hcount := Nat.lt_trans (length_items_lt_array items) hfuel
    have hread : ∀ j ∈ items, ∀ rest, EndsNumber rest →
        scanValue fuel depth (encodeChars j.text ++ rest) = .ok (j, rest) :=
      fun j hj rest ↦ ih j hj (Nat.lt_trans (length_lt_array hj) hfuel)
    have hstart : ∀ j ∈ items, ∃ b rest, encodeChars j.text = b :: rest ∧
        isSpace b = false ∧ b ≠ 93 := by
      intro j hj
      obtain ⟨b, rest, hcons, hspace, hend, -⟩ := exists_text_eq_cons (hitems j hj)
      exact ⟨b, rest, hcons, hspace, hend⟩
    rw [encodeChars_array]
    simp only [List.cons_append, List.append_assoc, List.nil_append]
    rw [scanValue_bracket]
    exact scanList_text hread hstart hcount rest
  | @object depth fields hordered hfields ih =>
    have hcount := Nat.lt_trans (length_fields_lt_object fields) hfuel
    have hnames : ∀ p ∈ fields, (escaped p.1.toList).length < fuel := fun p hp ↦
      Nat.lt_trans (length_lt_object hp).1 hfuel
    have hread : ∀ p ∈ fields, ∀ rest, EndsNumber rest →
        scanValue fuel depth (encodeChars p.2.text ++ rest) = .ok (p.2, rest) :=
      fun p hp rest ↦ ih p hp (Nat.lt_trans (length_lt_object hp).2 hfuel)
    rw [encodeChars_object]
    simp only [List.cons_append, List.append_assoc, List.nil_append]
    rw [scanValue_brace]
    exact scanObject_text hordered hnames hread hcount rest

end QueryWatch.Json
