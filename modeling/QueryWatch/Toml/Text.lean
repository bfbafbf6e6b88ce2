/-!
The strings of TOML: basic ones with escapes and literal ones without, each on one line or over
several. Strings over several lines begin behind a newline that follows the opening quotes, may hold
one or two quotes in a row, and may end in as many before the closing ones.
-/

set_option autoImplicit false

namespace QueryWatch.Toml

/-- Reading a part of a text. -/
abbrev Part (α : Type) := List Char → Option (α × List Char)

/-- The blanks inside a line. -/
def isSpace (c : Char) : Bool := c = ' ' || c = '\t'

def skipSpace (s : List Char) : List Char := s.dropWhile isSpace

/-- Whether a character may stand in a comment: all but control characters, and the tabulator. -/
def isPlain (c : Char) : Bool :=
  let n := c.toNat
  c = '\t' || (0x20 ≤ n && n ≤ 0x7E) || 0x80 ≤ n

/-- A text behind the newline it starts with. -/
def newline? : List Char → Option (List Char)
  | '\n' :: r => some r
  | '\r' :: '\n' :: r => some r
  | _ => none

/-- Reads past blanks and newlines. -/
def skipLines : List Char → List Char
  | '\n' :: r => skipLines r
  | '\r' :: '\n' :: r => skipLines r
  | c :: r => if isSpace c then skipLines r else c :: r
  | [] => []

def hexDigit? (c : Char) : Option Nat :=
  let n := c.toNat
  if 48 ≤ n ∧ n ≤ 57 then some (n - 48)
  else if 65 ≤ n ∧ n ≤ 70 then some (n - 55)
  else if 97 ≤ n ∧ n ≤ 102 then some (n - 87)
  else none

/-- Reads a character given by a number of digits to the base 16. -/
def hexChar (count : Nat) : Part Char := fun s ↦
  let digits := (s.take count).filterMap hexDigit?
  let n := digits.foldl (fun n d ↦ 16 * n + d) 0
  if digits.length = count ∧ n.isValidChar then some (Char.ofNat n, s.drop count) else none

/-- Reads an escape behind its backslash. -/
def escape : Part Char
  | 'b' :: r => some ('\x08', r)
  | 'f' :: r => some ('\x0c', r)
  | 'n' :: r => some ('\n', r)
  | 'r' :: r => some ('\r', r)
  | 't' :: r => some ('\t', r)
  | '\\' :: r => some ('\\', r)
  | '"' :: r => some ('"', r)
  | 'u' :: r => hexChar 4 r
  | 'U' :: r => hexChar 8 r
  | _ => none

/-- Reads a basic string behind its opening quote and what was read, latest first. -/
def basicOnto : (fuel : Nat) → (read : List Char) → Part String
  | 0, _, _ => none
  | _ + 1, _, [] => none
  | fuel + 1, read, c :: r =>
    if c = '"' then some (String.ofList read.reverse, r)
    else if c = '\\' then
      match escape r with
      | none => none
      | some (e, r) => basicOnto fuel (e :: read) r
    else if isPlain c then basicOnto fuel (c :: read) r
    else none

/-- Reads a literal string behind its opening quote and what was read, latest first. -/
def literalOnto (read : List Char) : Part String
  | [] => none
  | c :: r =>
    if c = '\'' then some (String.ofList read.reverse, r)
    else if isPlain c then literalOnto (c :: read) r
    else none

/-- What three or more quotes in a row end: the string, with those that are too many put behind
what was read, two of them at most. -/
def closing (quote : Char) (read : List Char) (s : List Char) : String × List Char :=
  let count := (s.takeWhile (· = quote)).length
  let extra := min (count - 3) 2
  (String.ofList (List.replicate extra quote ++ read).reverse, s.drop (extra + 3))

/-- Reads a string over several lines behind what was read, latest first. -/
def linesOnto (quote : Char) (escapes : Bool) : (fuel : Nat) → (read : List Char) → Part String
  | 0, _, _ => none
  | fuel + 1, read, s =>
    if [quote, quote, quote].isPrefixOf s then some (closing quote read s)
    else
      match newline? s, s with
      | some r, _ => linesOnto quote escapes fuel ('\n' :: read) r
      | none, [] => none
      | none, c :: r =>
        if escapes && c = '\\' then
          match newline? (skipSpace r) with
          | some r => linesOnto quote escapes fuel read (skipLines r)
          | none =>
            match escape r with
            | none => none
            | some (e, r) => linesOnto quote escapes fuel (e :: read) r
        else if isPlain c then linesOnto quote escapes fuel (c :: read) r
        else none

/-- Reads a string over several lines behind its opening quotes. -/
def lines (quote : Char) (escapes : Bool) : Part String := fun s ↦
  linesOnto quote escapes (s.length + 1) [] ((newline? s).getD s)

/-- Reads a string on one line. -/
def lineString : Part String
  | '"' :: r => basicOnto (r.length + 1) [] r
  | '\'' :: r => literalOnto [] r
  | _ => none

/-- Reads a string. -/
def string : Part String
  | '"' :: '"' :: '"' :: r => lines '"' true r
  | '\'' :: '\'' :: '\'' :: r => lines '\'' false r
  | s => lineString s

end QueryWatch.Toml
