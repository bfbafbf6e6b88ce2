import QueryWatch.Json.Stop

/-!
Reading the text of a string, behind its opening quote. Escapes by number stand for a character or,
as two halves, for one beyond U+FFFF; halves that do not belong together are faults. What was read
is collected as bytes, and is a string if it is well-formed UTF-8.
-/

set_option autoImplicit false

namespace QueryWatch.Json

open Text (Bytes)
open Text.Utf8 (encodeChar decode? wellFormedLength)

def hexValue? (b : UInt8) : Option Nat :=
  if 48 ≤ b && b ≤ 57 then some (b.toNat - 48)
  else if 65 ≤ b && b ≤ 70 then some (b.toNat - 55)
  else if 97 ≤ b && b ≤ 102 then some (b.toNat - 87)
  else none

/-- Reads the four digits of an escape by number. -/
def scanHex (s : Bytes) : Scan Nat :=
  match s with
  | a :: b :: c :: d :: rest =>
    match hexValue? a, hexValue? b, hexValue? c, hexValue? d with
    | some a, some b, some c, some d => .ok (((a * 16 + b) * 16 + c) * 16 + d, rest)
    | _, _, _, _ => .error (.fault .invalidEscape rest)
  | _ => .error (.fault .endInString [])

/-- Reads the second half of a character beyond U+FFFF. -/
def scanSecondHalf (first : Nat) (s : Bytes) : Scan Char :=
  match s with
  | [] => .error (.fault .endInString [])
  | 92 :: [] => .error (.fault .endInString [])
  | 92 :: 117 :: r =>
    match scanHex r with
    | .error stop => .error stop
    | .ok (second, r) =>
      if second < 0xDC00 ∨ 0xDFFF < second then .error (.fault .loneSurrogate r)
      else .ok (Char.ofNat (0x10000 + (first - 0xD800) * 1024 + (second - 0xDC00)), r)
  | 92 :: _ :: r => .error (.fault .endInHexEscape r)
  | _ :: r => .error (.fault .endInHexEscape r)

/-- Reads an escape behind its backslash. -/
def scanEscape (s : Bytes) : Scan Char :=
  match s with
  | [] => .error (.fault .endInString [])
  | 34 :: r => .ok ('"', r)
  | 92 :: r => .ok ('\\', r)
  | 47 :: r => .ok ('/', r)
  | 98 :: r => .ok ('\x08', r)
  | 102 :: r => .ok ('\x0c', r)
  | 110 :: r => .ok ('\n', r)
  | 114 :: r => .ok ('\r', r)
  | 116 :: r => .ok ('\t', r)
  | 117 :: r =>
    match scanHex r with
    | .error stop => .error stop
    | .ok (n, r) =>
      if 0xDC00 ≤ n ∧ n ≤ 0xDFFF then .error (.fault .loneSurrogate r)
      else if 0xD800 ≤ n ∧ n ≤ 0xDBFF then scanSecondHalf n r
      else .ok (Char.ofNat n, r)
  | _ :: r => .error (.fault .invalidEscape r)

/-- Reads up to the closing quote, behind bytes already read, latest first. -/
def scanStringBytes : (fuel : Nat) → (read : Bytes) → Bytes → Scan Bytes
  | 0, _, s => .error (.fault .endInString s)
  | _ + 1, _, [] => .error (.fault .endInString [])
  | fuel + 1, read, b :: r =>
    if b = 34 then .ok (read.reverse, r)
    else if b = 92 then
      match scanEscape r with
      | .error stop => .error stop
      | .ok (c, r) => scanStringBytes fuel ((encodeChar c).reverseAux read) r
    else if b < 32 then .error (.fault .controlCharacter r)
    else scanStringBytes fuel (b :: read) r

/-- Reads a string behind its opening quote. Ill-formed UTF-8 is noticed at the closing quote, and
reported at the byte where it starts. -/
def scanString (fuel : Nat) (s : Bytes) : Scan String :=
  match scanStringBytes fuel [] s with
  | .error stop => .error stop
  | .ok (bytes, r) =>
    match decode? bytes with
    | some text => .ok (text, r)
    | none => .error (.atNext .invalidCodePoint (s.drop (wellFormedLength bytes)))

end QueryWatch.Json
