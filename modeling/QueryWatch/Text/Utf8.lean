/-!
UTF-8 as bytes. A text is written character by character (`encode`), and read by a machine that
takes one byte at a time (`Reading.step`) and knows between two bytes how many are still owed. What
cannot be read is reported once per maximal ill-formed part, so that `decodeLossy` puts one
replacement character where several bytes belong together, and `decode?` refuses the text.
-/

set_option autoImplicit false

namespace QueryWatch.Text

/-- A text as it travels. -/
abbrev Bytes := List UInt8

namespace Utf8

/-- The one to four bytes of a character. -/
def encodeChar (c : Char) : Bytes :=
  let n := c.toNat
  if n < 0x80 then [n.toUInt8]
  else if n < 0x800 then [(0xC0 + n / 64).toUInt8, (0x80 + n % 64).toUInt8]
  else if n < 0x10000 then
    [(0xE0 + n / 4096).toUInt8, (0x80 + n / 64 % 64).toUInt8, (0x80 + n % 64).toUInt8]
  else
    [(0xF0 + n / 262144).toUInt8, (0x80 + n / 4096 % 64).toUInt8, (0x80 + n / 64 % 64).toUInt8,
      (0x80 + n % 64).toUInt8]

/-- The bytes of a text. -/
def encode (s : String) : Bytes := s.toList.flatMap encodeChar

/-- A character of which some bytes are read: how many are owed, the bounds of the next one, and
the bits read so far. -/
structure Partial where
  owed : Nat
  low : Nat
  high : Nat
  bits : Nat
  deriving DecidableEq, Repr

/-- What was read, latest first, with `none` for each maximal ill-formed part, and the character
under way. -/
structure Reading where
  read : List (Option Char)
  current : Option Partial
  deriving DecidableEq, Repr

/-- A reading between two characters takes the first byte of the next one. -/
def Reading.start (read : List (Option Char)) (b : Nat) : Reading :=
  if b < 0x80 then ⟨some (Char.ofNat b) :: read, none⟩
  else if b < 0xC2 then ⟨none :: read, none⟩
  else if b < 0xE0 then ⟨read, some ⟨1, 0x80, 0xBF, b - 0xC0⟩⟩
  else if b < 0xF0 then
    ⟨read, some ⟨2, if b = 0xE0 then 0xA0 else 0x80, if b = 0xED then 0x9F else 0xBF, b - 0xE0⟩⟩
  else if b < 0xF5 then
    ⟨read, some ⟨3, if b = 0xF0 then 0x90 else 0x80, if b = 0xF4 then 0x8F else 0xBF, b - 0xF0⟩⟩
  else ⟨none :: read, none⟩

/-- A reading takes one byte. A byte that cannot continue the character under way ends it as
ill-formed and is read as the first byte of another one. -/
def Reading.step (r : Reading) (byte : UInt8) : Reading :=
  let b := byte.toNat
  match r.current with
  | none => .start r.read b
  | some p =>
    if p.low ≤ b ∧ b ≤ p.high then
      let bits := p.bits * 64 + (b - 0x80)
      if p.owed ≤ 1 then ⟨some (Char.ofNat bits) :: r.read, none⟩
      else ⟨r.read, some ⟨p.owed - 1, 0x80, 0xBF, bits⟩⟩
    else .start (none :: r.read) b

/-- The end of the text ends a character under way as ill-formed. -/
def Reading.finish (r : Reading) : List (Option Char) :=
  match r.current with
  | none => r.read.reverse
  | some _ => (none :: r.read).reverse

/-- The characters of a byte text, with `none` for each maximal ill-formed part. -/
def scan (bytes : Bytes) : List (Option Char) :=
  (bytes.foldl Reading.step ⟨[], none⟩).finish

/-- The text, if every byte belongs to a character. -/
def decode? (bytes : Bytes) : Option String :=
  let chars := scan bytes
  if chars.all Option.isSome then some (String.ofList (chars.filterMap id)) else none

/-- The text, with U+FFFD for each maximal ill-formed part. -/
def decodeLossy (bytes : Bytes) : String :=
  String.ofList ((scan bytes).map fun c ↦ c.getD '\uFFFD')

/-- How many bytes come before the first ill-formed part. -/
def wellFormedLength (bytes : Bytes) : Nat :=
  ((scan bytes).takeWhile Option.isSome).foldl
    (fun n c ↦ n + match c with | some c => (encodeChar c).length | none => 0) 0

end Utf8
end QueryWatch.Text
