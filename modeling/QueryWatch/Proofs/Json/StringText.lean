import QueryWatch.Json.StringText
import QueryWatch.Json.Writer
import QueryWatch.Proofs.Text.Utf8

/-!
Strings are read back as they are written. A character is written as itself or as an escape that is
read as it (`escapeChar_cases`), by one of a few letters (`shortEscapes`) or by its number; the
bytes of one that is written as itself are read one by one (`scanStringBytes_plain`). So what stands
between the quotes of a string is read as that string (`scanString_escaped`). Nothing that is
written in a string is a control character (`le_of_mem_stringText`).
-/

set_option autoImplicit false

namespace QueryWatch.Json

open Text (Bytes)
open Text.Utf8 (encodeChar encodeChars encodeChars_cons encodeChars_append)

/-! ### One character -/

/-- A digit to the base sixteen is one byte, which is read as the digit. -/
theorem hexValue?_digitChar {n : Nat} (hn : n < 16) :
    32 ≤ (Nat.digitChar n).toNat ∧
      ∃ b, encodeChar (Nat.digitChar n) = [b] ∧ hexValue? b = some n := by
  have hdigits : ∀ k < 16, 32 ≤ (Nat.digitChar k).toNat ∧ (Nat.digitChar k).toNat < 0x80 ∧
      hexValue? (Nat.digitChar k).toNat.toUInt8 = some k := by
    decide
  obtain ⟨hle, hascii, hvalue⟩ := hdigits n hn
  exact ⟨hle, _, Text.Utf8.encodeChar_of_ascii hascii, hvalue⟩

/-- The digits of an escape by number are read as the number. -/
theorem scanHex_digitChar {n : Nat} (hn : n < 32) (rest : Bytes) :
    scanHex (encodeChars ['0', '0', Nat.digitChar (n / 16), Nat.digitChar (n % 16)] ++ rest) =
      .ok (n, rest) := by
  obtain ⟨-, high, hhigh, hhighValue⟩ := hexValue?_digitChar (show n / 16 < 16 by omega)
  obtain ⟨-, low, hlow, hlowValue⟩ := hexValue?_digitChar (show n % 16 < 16 by omega)
  have hzero : encodeChar '0' = [48] ∧ hexValue? 48 = some 0 := ⟨rfl, rfl⟩
  simp only [encodeChars_cons, hhigh, hlow, hzero, Text.Utf8.encodeChars_nil, List.cons_append,
    List.nil_append, scanHex, hhighValue, hlowValue]
  rw [show ((0 * 16 + 0) * 16 + n / 16) * 16 + n % 16 = n by omega]

/-- The characters that are escaped by one letter, each with its letter. -/
def shortEscapes : List (Char × Char) :=
  [('"', '"'), ('\\', '\\'), ('\x08', 'b'), ('\t', 't'), ('\n', 'n'), ('\x0c', 'f'), ('\r', 'r')]

theorem escapeChar_of_mem_shortEscapes {c a : Char} (hshort : (c, a) ∈ shortEscapes) :
    escapeChar c = ['\\', a] ∧ 32 ≤ a.toNat ∧
      ∀ rest, scanEscape (encodeChars [a] ++ rest) = .ok (c, rest) := by
  simp only [shortEscapes, List.mem_cons, Prod.mk.injEq, List.not_mem_nil, or_false] at hshort
  rcases hshort with ⟨rfl, rfl⟩ | ⟨rfl, rfl⟩ | ⟨rfl, rfl⟩ | ⟨rfl, rfl⟩ | ⟨rfl, rfl⟩ | ⟨rfl, rfl⟩ |
    ⟨rfl, rfl⟩ <;> exact ⟨rfl, by decide, fun rest ↦ rfl⟩

/-- A character that is not escaped by a letter is written as itself or escaped by number. -/
theorem escapeChar_of_notMem_shortEscapes {c : Char} (hlong : c ∉ shortEscapes.map Prod.fst) :
    escapeChar c = if 0x20 ≤ c.toNat then [c] else
      ['\\', 'u', '0', '0', Nat.digitChar (c.toNat / 16), Nat.digitChar (c.toNat % 16)] := by
  simp only [shortEscapes, List.map_cons, List.map_nil, List.mem_cons, List.not_mem_nil, or_false,
    not_or] at hlong
  obtain ⟨hquote, hbackslash, hbackspace, htab, hnewline, hfeed, hreturn⟩ := hlong
  rw [escapeChar, if_neg hquote, if_neg hbackslash, if_neg hbackspace, if_neg htab,
    if_neg hnewline, if_neg hfeed, if_neg hreturn]

/-- A character is written as itself, or as a backslash and what is read as that character behind
one. -/
theorem escapeChar_cases (c : Char) :
    escapeChar c = [c] ∧ c ≠ '"' ∧ c ≠ '\\' ∧ 32 ≤ c.toNat ∨
      ∃ tail, escapeChar c = '\\' :: tail ∧ (∀ a ∈ tail, 32 ≤ a.toNat) ∧
        ∀ rest, scanEscape (encodeChars tail ++ rest) = .ok (c, rest) := by
  by_cases hmem : c ∈ shortEscapes.map Prod.fst
  · obtain ⟨⟨b, a⟩, hshort, rfl⟩ := List.mem_map.mp hmem
    obtain ⟨hescape, hle, hscan⟩ := escapeChar_of_mem_shortEscapes hshort
    exact Or.inr ⟨[a], hescape, List.forall_mem_singleton.mpr hle, hscan⟩
  have hescape := escapeChar_of_notMem_shortEscapes hmem
  by_cases hplain : 0x20 ≤ c.toNat
  · rw [if_pos hplain] at hescape
    refine Or.inl ⟨hescape, ?_, ?_, hplain⟩
    · rintro rfl
      exact hmem (by decide)
    · rintro rfl
      exact hmem (by decide)
  · rw [if_neg hplain] at hescape
    refine Or.inr ⟨_, hescape, ?_, fun rest ↦ ?_⟩
    · have hzero : 32 ≤ '0'.toNat := by decide
      have hhigh := hexValue?_digitChar (show c.toNat / 16 < 16 by omega)
      have hlow := hexValue?_digitChar (show c.toNat % 16 < 16 by omega)
      simp only [List.forall_mem_cons]
      exact ⟨by decide, hzero, hzero, hhigh.1, hlow.1, nofun⟩
    · have hscan := scanHex_digitChar (Nat.not_le.mp hplain) rest
      rw [encodeChars_cons, show encodeChar 'u' = [117] from rfl, List.singleton_append,
        List.cons_append, scanEscape, hscan]
      dsimp only
      rw [if_neg (by omega), if_neg (by omega), Char.ofNat_toNat]

/-! ### Strings -/

/-- Bytes that are no quote, no backslash and no control characters are read as they are. -/
theorem scanStringBytes_plain {bytes : Bytes} (hplain : ∀ b ∈ bytes, b ≠ 34 ∧ b ≠ 92 ∧ ¬b < 32)
    (fuel : Nat) (read rest : Bytes) :
    scanStringBytes (bytes.length + fuel) read (bytes ++ rest) =
      scanStringBytes fuel (bytes.reverseAux read) rest := by
  induction bytes generalizing read with
  | nil => rw [List.length_nil, Nat.zero_add]; rfl
  | cons b bytes ih =>
    obtain ⟨hquote, hbackslash, hcontrol⟩ := hplain b List.mem_cons_self
    rw [List.length_cons, Nat.succ_add, List.cons_append, scanStringBytes, if_neg hquote,
      if_neg hbackslash, if_neg hcontrol, ih fun b hb ↦ hplain b (List.mem_cons_of_mem _ hb)]
    rfl

/-- The bytes of what stands between the quotes of a string. -/
def escaped (chars : List Char) : Bytes := encodeChars (chars.flatMap escapeChar)

theorem encodeChars_stringText (s : String) :
    encodeChars (stringText s) = 34 :: (escaped s.toList ++ [34]) := by
  unfold stringText escaped
  rw [List.cons_append, encodeChars_cons, encodeChars_append]
  rfl

/-- What stands between the quotes of a string is read as its bytes. -/
theorem scanStringBytes_escaped (chars : List Char) {fuel : Nat}
    (hfuel : (escaped chars).length < fuel) (read rest : Bytes) :
    scanStringBytes fuel read (escaped chars ++ 34 :: rest) =
      .ok (read.reverse ++ encodeChars chars, rest) := by
  induction chars generalizing fuel read with
  | nil =>
    obtain ⟨fuel, rfl⟩ := Nat.exists_eq_succ_of_ne_zero (Nat.ne_of_gt hfuel)
    rw [Text.Utf8.encodeChars_nil, List.append_nil]
    rfl
  | cons c chars ih =>
    have hsplit : escaped (c :: chars) = encodeChars (escapeChar c) ++ escaped chars := by
      rw [escaped, List.flatMap_cons, encodeChars_append, escaped]
    rw [hsplit, List.length_append] at hfuel
    rw [hsplit, List.append_assoc]
    rcases escapeChar_cases c with ⟨hself, hquote, hbackslash, hle⟩ | ⟨tail, htail, -, hescape⟩
    · have hbytes : encodeChars [c] = encodeChar c := by
        rw [encodeChars_cons, Text.Utf8.encodeChars_nil, List.append_nil]
      rw [hself, hbytes] at hfuel ⊢
      have hplain : ∀ b ∈ encodeChar c, b ≠ 34 ∧ b ≠ 92 ∧ ¬b < 32 := by
        intro b hb
        have hsame := Text.Utf8.toNat_eq_of_mem_encodeChar hb
        refine ⟨?_, ?_, fun hlt ↦ ?_⟩
        · rintro rfl
          exact hquote (Char.toNat_inj.mp (hsame (by decide)))
        · rintro rfl
          exact hbackslash (Char.toNat_inj.mp (hsame (by decide)))
        · have hcontrol : b.toNat < 32 := hlt
          have hnumber := hsame (Nat.lt_trans hcontrol (by decide))
          omega
      obtain ⟨left, rfl⟩ := Nat.exists_eq_add_of_le (show (encodeChar c).length ≤ fuel by omega)
      rw [scanStringBytes_plain hplain, ih (by omega), encodeChars_cons, List.reverseAux_eq,
        List.reverse_append, List.reverse_reverse, List.append_assoc]
    · obtain ⟨fuel, rfl⟩ := Nat.exists_eq_succ_of_ne_zero (show fuel ≠ 0 by omega)
      have hbackslash : encodeChar '\\' = [92] := rfl
      rw [htail, encodeChars_cons, hbackslash] at hfuel ⊢
      rw [List.append_assoc, List.singleton_append, scanStringBytes, if_neg (by decide), if_pos rfl,
        hescape]
      simp only [List.length_append, List.length_singleton] at hfuel
      dsimp only
      rw [ih (by omega), encodeChars_cons, List.reverseAux_eq, List.reverse_append,
        List.reverse_reverse, List.append_assoc]

/-- What stands between the quotes of a string is read as the string. -/
theorem scanString_escaped (s : String) {fuel : Nat} (hfuel : (escaped s.toList).length < fuel)
    (rest : Bytes) : scanString fuel (escaped s.toList ++ 34 :: rest) = .ok (s, rest) := by
  have hdecoded : Text.Utf8.decode? (encodeChars s.toList) = some s := Text.Utf8.decode?_encode s
  unfold scanString
  rw [scanStringBytes_escaped s.toList hfuel, List.reverse_nil, List.nil_append]
  dsimp only
  rw [hdecoded]

/-- No control character stands in the text of a string. -/
theorem le_of_mem_stringText {s : String} {c : Char} (hc : c ∈ stringText s) : 32 ≤ c.toNat := by
  unfold stringText at hc
  simp only [List.mem_cons, List.mem_append, List.mem_flatMap, List.cons_append,
    List.not_mem_nil, or_false] at hc
  rcases hc with rfl | ⟨a, -, ha⟩ | rfl
  · decide
  · rcases escapeChar_cases a with ⟨hself, -, -, hle⟩ | ⟨tail, htail, hle, -⟩
    · rw [hself, List.mem_singleton] at ha
      rw [ha]
      exact hle
    · rw [htail, List.mem_cons] at ha
      rcases ha with rfl | ha
      · decide
      · exact hle c ha
  · decide

end QueryWatch.Json
