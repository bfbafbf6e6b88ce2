import Mathlib.Data.List.TakeDrop
import QueryWatch.Json.NumberText
import QueryWatch.Json.Writer
import QueryWatch.Proofs.Text.Utf8

/-!
Whole numbers from zero up to the largest of 64 bits are read back as they are written. Their digits
all fit (`absorb_eq`), so none is left out; behind them nothing may come that goes on with a number
(`EndsNumber`).
-/

set_option autoImplicit false

namespace QueryWatch.Json

open Text (Bytes)
open Text.Utf8 (encodeChar encodeChars encodeChars_cons)

/-- Nothing comes that goes on with the digits of a number. -/
def EndsNumber (rest : Bytes) : Prop :=
  ∀ b ∈ rest.head?, isDigit b = false ∧ b ≠ 46 ∧ b ≠ 69 ∧ b ≠ 101

/-! ### Digits -/

/-- A digit is one byte, which is read as the digit. -/
theorem encodeChar_of_isDigit {c : Char} (hc : c.isDigit = true) :
    ∃ b, encodeChar c = [b] ∧ isDigit b = true ∧ b.toNat = c.toNat := by
  have hbounds : 48 ≤ c.toNat ∧ c.toNat ≤ 57 := by
    simpa [Char.isDigit, UInt32.le_iff_toNat_le] using hc
  obtain ⟨hlow, hhigh⟩ := hbounds
  have hnumber := Text.Utf8.toNat_toUInt8_of_lt (show c.toNat < 256 by omega)
  refine ⟨_, Text.Utf8.encodeChar_of_ascii (by omega), ?_, hnumber⟩
  simp only [isDigit, Bool.and_eq_true, decide_eq_true_eq, UInt8.le_iff_toNat_le, hnumber]
  exact ⟨hlow, hhigh⟩

/-- Digits are bytes that are read as digits, and stand for the same number. -/
theorem encodeChars_digits {chars : List Char} (hdigits : ∀ c ∈ chars, c.isDigit = true) :
    (∀ b ∈ encodeChars chars, isDigit b = true) ∧ ∀ value,
      (encodeChars chars).foldl (fun value d ↦ value * 10 + digitValue d) value =
        Nat.ofDigitChars 10 chars value := by
  induction chars with
  | nil => exact ⟨nofun, fun value ↦ rfl⟩
  | cons c chars ih =>
    obtain ⟨b, hbytes, hdigit, hnumber⟩ := encodeChar_of_isDigit (hdigits c List.mem_cons_self)
    obtain ⟨hrest, hvalue⟩ := ih fun d hd ↦ hdigits d (List.mem_cons_of_mem _ hd)
    rw [encodeChars_cons, hbytes, List.singleton_append]
    refine ⟨?_, fun value ↦ ?_⟩
    · intro d hd
      rcases List.mem_cons.mp hd with rfl | hd
      · exact hdigit
      · exact hrest d hd
    · rw [List.foldl_cons, hvalue, Nat.ofDigitChars_cons, digitValue, hnumber, Nat.mul_comm]
      rfl

theorem le_foldl_digits (digits : Bytes) (value : Nat) :
    value ≤ digits.foldl (fun value d ↦ value * 10 + digitValue d) value := by
  induction digits generalizing value with
  | nil => exact Nat.le_refl _
  | cons d rest ih => exact Nat.le_trans (by omega) (ih (value * 10 + digitValue d))

/-- Digits of a number that fits into 64 bits are all taken up. -/
theorem absorb_eq (digits : Bytes) {value : Nat}
    (hfits : digits.foldl (fun value d ↦ value * 10 + digitValue d) value < UInt64.size) :
    Significand.absorb value digits =
      ⟨digits.foldl (fun value d ↦ value * 10 + digitValue d) value, 0⟩ := by
  induction digits generalizing value with
  | nil => rfl
  | cons d rest ih =>
    rw [List.foldl_cons] at hfits ⊢
    have hnext := Nat.lt_of_le_of_lt (le_foldl_digits rest _) hfits
    rw [Significand.absorb, if_pos hnext, ih hfits]

/-- A number above zero does not start with the digit zero. -/
theorem exists_toDigits_eq_cons {n : Nat} (hn : 0 < n) :
    ∃ c chars, Nat.toDigits 10 n = c :: chars ∧ c ≠ '0' := by
  induction n using Nat.strongRecOn with
  | ind n ih =>
    by_cases hlt : n < 10
    · refine ⟨n.digitChar, [], Nat.toDigits_of_lt_base hlt, fun hzero ↦ ?_⟩
      have := Nat.digitChar_eq_zero.mp hzero
      omega
    · obtain ⟨c, chars, hdigits, hc⟩ := ih (n / 10) (by omega) (by omega)
      refine ⟨c, chars ++ [(n % 10).digitChar], ?_, hc⟩
      rw [Nat.toDigits_of_base_le (by omega) (by omega), hdigits, List.cons_append]

theorem isDigit_of_mem_toDigits {n : Nat} {c : Char} (hc : c ∈ Nat.toDigits 10 n) :
    c.isDigit = true :=
  Nat.isDigit_of_mem_toDigits (by omega) (by omega) hc

/-- The text of a number starts with a digit. -/
theorem exists_encodeChars_toDigits (n : Nat) :
    ∃ b rest, encodeChars (Nat.toDigits 10 n) = b :: rest ∧ isDigit b = true := by
  obtain ⟨c, chars, hcons⟩ := List.exists_cons_of_ne_nil (Nat.toDigits_ne_nil (n := n) (b := 10))
  obtain ⟨b, hbytes, hdigit, -⟩ :=
    encodeChar_of_isDigit (isDigit_of_mem_toDigits (hcons ▸ List.mem_cons_self))
  refine ⟨b, encodeChars chars, ?_, hdigit⟩
  rw [hcons, encodeChars_cons, hbytes]
  rfl

/-! ### Numbers -/

theorem span_isDigit {digits rest : Bytes} (hdigits : ∀ b ∈ digits, isDigit b = true)
    (hrest : EndsNumber rest) : (digits ++ rest).span isDigit = (digits, rest) := by
  rw [List.span_eq_takeWhile_dropWhile]
  have htake : rest.takeWhile isDigit = [] ∧ rest.dropWhile isDigit = rest := by
    cases rest with
    | nil => exact ⟨rfl, rfl⟩
    | cons b rest =>
      obtain ⟨hb, -⟩ := hrest b rfl
      simp [hb]
  rw [List.takeWhile_append_of_pos hdigits, List.dropWhile_append_of_pos hdigits, htake.1, htake.2,
    List.append_nil]

theorem scanTail_whole {rest : Bytes} (n : Nat) (hrest : EndsNumber rest) :
    scanTail false ⟨n, 0⟩ rest = .ok (.whole n, rest) := by
  have hhead : rest.head? ≠ some 69 ∧ rest.head? ≠ some 101 := by
    refine ⟨fun heq ↦ ?_, fun heq ↦ ?_⟩
    · exact (hrest 69 heq).2.2.1 rfl
    · exact (hrest 101 heq).2.2.2 rfl
  unfold scanTail
  split
  next r => exact absurd rfl (hrest 46 rfl).2.1
  next =>
    rw [if_pos ⟨rfl, hhead⟩]
    rfl

/-- A number that does not start with the digit zero is read digit by digit. -/
theorem scanNumber_cons {c : UInt8} (hdigit : isDigit c = true) (hzero : c ≠ 48) (rest : Bytes) :
    scanNumber false (c :: rest) =
      scanTail false (Significand.absorb 0 ((c :: rest).span isDigit).1)
        ((c :: rest).span isDigit).2 := by
  unfold scanNumber
  split
  next heq => cases heq
  next r heq => exact absurd (List.cons.inj heq).1 hzero
  next d r hother heq =>
    obtain ⟨rfl, rfl⟩ := List.cons.inj heq
    rw [if_pos hdigit]

/-- A whole number of 64 bits is read from its digits. -/
theorem scanNumber_toDigits {n : Nat} (hn : n < UInt64.size) {rest : Bytes}
    (hrest : EndsNumber rest) :
    scanNumber false (encodeChars (Nat.toDigits 10 n) ++ rest) = .ok (.whole n, rest) := by
  rcases Nat.eq_zero_or_pos n with rfl | hpos
  · have hdigit : (rest.head?.map isDigit).getD false = false := by
      cases hhead : rest.head? with
      | none => rfl
      | some b => exact (hrest b hhead).1
    rw [Nat.toDigits_zero]
    show (if (rest.head?.map isDigit).getD false = true then _ else scanTail false ⟨0, 0⟩ rest) = _
    rw [hdigit, if_neg Bool.false_ne_true]
    exact scanTail_whole 0 hrest
  · obtain ⟨hdigits, hvalue⟩ := encodeChars_digits fun c (hc : c ∈ Nat.toDigits 10 n) ↦
      isDigit_of_mem_toDigits hc
    have hnumber := hvalue 0
    rw [Nat.ofDigitChars_ten_toDigits] at hnumber
    have habsorb := absorb_eq (encodeChars (Nat.toDigits 10 n)) (hnumber ▸ hn)
    rw [hnumber] at habsorb
    have hspan := span_isDigit hdigits hrest
    -- The number is above zero, so its first digit is not zero.
    obtain ⟨c, chars, hcons, hc⟩ := exists_toDigits_eq_cons hpos
    obtain ⟨b, hbytes, hdigit, hb⟩ :=
      encodeChar_of_isDigit (isDigit_of_mem_toDigits (hcons ▸ List.mem_cons_self))
    have hzero : b ≠ 48 := by
      intro heq
      refine hc (Char.toNat_inj.mp ?_)
      rw [← hb, heq]
      rfl
    have hfirst : encodeChars (Nat.toDigits 10 n) ++ rest = b :: (encodeChars chars ++ rest) := by
      rw [hcons, encodeChars_cons, hbytes]
      rfl
    rw [hfirst, scanNumber_cons hdigit hzero, ← hfirst, hspan, habsorb]
    exact scanTail_whole n hrest

end QueryWatch.Json
