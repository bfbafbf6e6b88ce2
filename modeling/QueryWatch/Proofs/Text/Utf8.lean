import Mathlib.Tactic.Common
import QueryWatch.Text.Utf8

/-!
UTF-8 is read back as it is written: the machine that takes one byte at a time reads the bytes of a
character as that character (`foldl_step_encodeChar`), so a text is decoded to itself
(`decode?_encode`). An ASCII byte occurs only where the character of its number stands
(`toNat_eq_of_mem_encodeChar`).
-/

set_option autoImplicit false

namespace QueryWatch.Text.Utf8

theorem toNat_toUInt8_of_lt {n : Nat} (h : n < 256) : n.toUInt8.toNat = n :=
  Nat.mod_eq_of_lt h

/-! ### One byte -/

section Steps

variable (read : List (Option Char)) {b : Nat} (hb : b < 256)

include hb in
theorem step_start : Reading.step ⟨read, none⟩ b.toUInt8 = .start read b := by
  simp only [Reading.step, toNat_toUInt8_of_lt hb]

include hb in
/-- A byte within the bounds goes on with the character under way. -/
theorem step_more {low high : Nat} (owed bits : Nat) (hlow : low ≤ b) (hhigh : b ≤ high) :
    Reading.step ⟨read, some ⟨owed + 2, low, high, bits⟩⟩ b.toUInt8 =
      ⟨read, some ⟨owed + 1, 0x80, 0xBF, bits * 64 + (b - 0x80)⟩⟩ := by
  simp only [Reading.step, toNat_toUInt8_of_lt hb]
  rw [if_pos ⟨hlow, hhigh⟩, if_neg (by omega)]
  rfl

include hb in
/-- A byte within the bounds ends a character that owes one byte. -/
theorem step_last {low high : Nat} (bits : Nat) (hlow : low ≤ b) (hhigh : b ≤ high) :
    Reading.step ⟨read, some ⟨1, low, high, bits⟩⟩ b.toUInt8 =
      ⟨some (Char.ofNat (bits * 64 + (b - 0x80))) :: read, none⟩ := by
  simp only [Reading.step, toNat_toUInt8_of_lt hb]
  rw [if_pos ⟨hlow, hhigh⟩, if_pos (Nat.le_refl 1)]

end Steps

/-! ### One character -/

/-- The numbers of characters are those below U+110000 but for the halves of pairs. -/
theorem toNat_bounds (c : Char) : c.toNat < 0xD800 ∨ 0xDFFF < c.toNat ∧ c.toNat < 0x110000 :=
  c.valid

/-- Between two characters, the bytes of a character are read as that character. -/
theorem foldl_step_encodeChar (read : List (Option Char)) (c : Char) :
    (encodeChar c).foldl Reading.step ⟨read, none⟩ = ⟨some c :: read, none⟩ := by
  have hvalid := toNat_bounds c
  have hread : ∀ n, n = c.toNat → (⟨some (Char.ofNat n) :: read, none⟩ : Reading) =
      ⟨some c :: read, none⟩ := by
    intro n hn
    rw [hn, Char.ofNat_toNat]
  unfold encodeChar
  generalize c.toNat = n at hvalid hread
  dsimp only
  by_cases hone : n < 0x80
  · rw [if_pos hone, List.foldl_cons, step_start read (by omega), Reading.start, if_pos hone]
    exact hread n rfl
  rw [if_neg hone]
  by_cases htwo : n < 0x800
  · rw [if_pos htwo]
    simp only [List.foldl_cons, List.foldl_nil]
    rw [step_start read (by omega), Reading.start, if_neg (by omega), if_neg (by omega),
      if_pos (by omega), step_last read (by omega) _ (by omega) (by omega)]
    exact hread _ (by omega)
  rw [if_neg htwo]
  by_cases hthree : n < 0x10000
  · rw [if_pos hthree]
    simp only [List.foldl_cons, List.foldl_nil]
    rw [step_start read (by omega), Reading.start, if_neg (by omega), if_neg (by omega),
      if_neg (by omega), if_pos (by omega),
      step_more read (by omega) 0 _ (by split <;> omega) (by split <;> omega),
      step_last read (by omega) _ (by omega) (by omega)]
    exact hread _ (by omega)
  · rw [if_neg hthree]
    simp only [List.foldl_cons, List.foldl_nil]
    rw [step_start read (by omega), Reading.start, if_neg (by omega), if_neg (by omega),
      if_neg (by omega), if_neg (by omega), if_pos (by omega),
      step_more read (by omega) 1 _ (by split <;> omega) (by split <;> omega),
      step_more read (by omega) 0 _ (by omega) (by omega),
      step_last read (by omega) _ (by omega) (by omega)]
    exact hread _ (by omega)

/-- An ASCII byte stands for the character of its own number only. -/
theorem toNat_eq_of_mem_encodeChar {b : UInt8} {c : Char} (hb : b ∈ encodeChar c)
    (hascii : b < 0x80) : c.toNat = b.toNat := by
  have hvalid := toNat_bounds c
  unfold encodeChar at hb
  generalize c.toNat = n at hvalid hb ⊢
  have hlow : b.toNat < 0x80 := hascii
  dsimp only at hb
  have hlarge : ∀ k, 0x80 ≤ k → k < 256 → b ≠ k.toUInt8 := by
    intro k hk hlt heq
    rw [heq, toNat_toUInt8_of_lt hlt] at hlow
    omega
  by_cases hone : n < 0x80
  · rw [if_pos hone, List.mem_singleton] at hb
    rw [hb, toNat_toUInt8_of_lt (by omega)]
  rw [if_neg hone] at hb
  exfalso
  by_cases htwo : n < 0x800
  · rw [if_pos htwo] at hb
    simp only [List.mem_cons, List.not_mem_nil, or_false] at hb
    rcases hb with heq | heq <;> exact hlarge _ (by omega) (by omega) heq
  rw [if_neg htwo] at hb
  by_cases hthree : n < 0x10000
  · rw [if_pos hthree] at hb
    simp only [List.mem_cons, List.not_mem_nil, or_false] at hb
    rcases hb with heq | heq | heq <;> exact hlarge _ (by omega) (by omega) heq
  · rw [if_neg hthree] at hb
    simp only [List.mem_cons, List.not_mem_nil, or_false] at hb
    rcases hb with heq | heq | heq | heq <;> exact hlarge _ (by omega) (by omega) heq

theorem encodeChar_of_ascii {c : Char} (hascii : c.toNat < 0x80) :
    encodeChar c = [c.toNat.toUInt8] :=
  if_pos hascii

/-! ### Texts -/

/-- The bytes of characters. -/
def encodeChars (chars : List Char) : Bytes := chars.flatMap encodeChar

theorem encode_eq (s : String) : encode s = encodeChars s.toList := rfl

@[simp]
theorem encodeChars_nil : encodeChars [] = [] := rfl

theorem encodeChars_cons (c : Char) (chars : List Char) :
    encodeChars (c :: chars) = encodeChar c ++ encodeChars chars := List.flatMap_cons

theorem encodeChars_append (first second : List Char) :
    encodeChars (first ++ second) = encodeChars first ++ encodeChars second := List.flatMap_append

theorem mem_encodeChars {b : UInt8} {chars : List Char} :
    b ∈ encodeChars chars ↔ ∃ c ∈ chars, b ∈ encodeChar c := List.mem_flatMap

theorem foldl_step_encodeChars (chars : List Char) (read : List (Option Char)) :
    (encodeChars chars).foldl Reading.step ⟨read, none⟩ =
      ⟨(chars.map some).reverse ++ read, none⟩ := by
  induction chars generalizing read with
  | nil => rfl
  | cons c rest ih =>
    rw [encodeChars_cons, List.foldl_append, foldl_step_encodeChar, ih, List.map_cons,
      List.reverse_cons, List.append_assoc, List.singleton_append]

theorem scan_encode (s : String) : scan (encode s) = s.toList.map some := by
  rw [scan, encode_eq, foldl_step_encodeChars, List.append_nil, Reading.finish,
    List.reverse_reverse]

/-- A text is decoded to itself. -/
theorem decode?_encode (s : String) : decode? (encode s) = some s := by
  have hsome : (s.toList.map some).all Option.isSome = true := by
    simp
  have hchars : (s.toList.map some).filterMap id = s.toList := by
    rw [List.filterMap_map]
    simp
  rw [decode?, scan_encode, hsome, hchars, if_pos rfl, String.ofList_toList]

theorem decodeLossy_encode (s : String) : decodeLossy (encode s) = s := by
  rw [decodeLossy, scan_encode, List.map_map]
  exact (congrArg String.ofList s.toList.map_id).trans s.ofList_toList

/-- An ASCII character many times is its byte as many times. -/
theorem encode_replicate {c : Char} (hascii : c.toNat < 0x80) (n : Nat) :
    encode (String.ofList (List.replicate n c)) = List.replicate n c.toNat.toUInt8 := by
  rw [encode, String.toList_ofList, List.flatMap_replicate, encodeChar_of_ascii hascii,
    List.flatten_replicate_singleton]

end QueryWatch.Text.Utf8
