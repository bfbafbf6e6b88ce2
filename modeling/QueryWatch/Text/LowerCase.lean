import QueryWatch.Text.CaseTable

/-!
Lower case for whole texts. Every character is lowered on its own, except that a capital sigma
becomes a final sigma where a word ends: behind it, passing over what a search for letters ignores,
stands a character with case, and before the next word none does. One capital, the dotted I, has a
lower-case form of two characters.
-/

set_option autoImplicit false

namespace QueryWatch.Text

/-- Whether a code point lies in one of some closed ranges. -/
def inRanges (ranges : List (Nat × Nat)) (n : Nat) : Bool :=
  ranges.any fun r ↦ r.1 ≤ n && n ≤ r.2

def isCased (c : Char) : Bool := inRanges casedRanges c.toNat

def isCaseIgnorable (c : Char) : Bool := inRanges caseIgnorableRanges c.toNat

/-- Whether a run lowers the character with this code point. -/
def LowerRun.covers (r : LowerRun) (n : Nat) : Bool :=
  r.first ≤ n && n ≤ r.last && (n - r.first) % r.stride == 0

/-- The lower-case form of a character by itself. -/
def lowerChar (c : Char) : List Char :=
  let n := c.toNat
  if n < 0x41 then [c]
  else if c = 'İ' then ['i', '\u0307']
  else
    match lowerRuns.find? (·.covers n) with
    | some r => [Char.ofNat (n + r.distance).toNat]
    | none => [c]

/-- Whether the first character that a search for letters does not pass over has case. -/
def meetsCased (s : List Char) : Bool :=
  match s.dropWhile isCaseIgnorable with
  | c :: _ => isCased c
  | [] => false

/-- The lower-case form of a character between those `before` it, nearest first, and `after` it. -/
def lowerBetween (before : List Char) (c : Char) (after : List Char) : List Char :=
  if c = 'Σ' then
    if meetsCased before && !meetsCased after then ['ς'] else ['σ']
  else lowerChar c

/-- The lower-case form of a text that stands behind `before`, nearest first, put behind what is
`lowered`, latest first. -/
def lowerOnto (before lowered : List Char) : List Char → List Char
  | [] => lowered.reverse
  | c :: after =>
    lowerOnto (c :: before) ((lowerBetween before c after).reverseAux lowered) after

/-- The lower-case form of a text. -/
def lowerCase (s : List Char) : List Char := lowerOnto [] [] s

/-- Whether a text occurs in another one, as a whole and in one place. -/
def occursIn (part : List Char) : List Char → Bool
  | [] => part.isEmpty
  | c :: rest => part.isPrefixOf (c :: rest) || occursIn part rest

end QueryWatch.Text
