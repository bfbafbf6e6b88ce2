import QueryWatch.Json.Mismatch

/-!
Writing JSON texts: on one line without white space (`compact`), or with a line for every item and
field (`pretty`). Only what JSON demands is escaped in strings, so other characters stand as
themselves.
-/

set_option autoImplicit false

namespace QueryWatch.Json

/-- A character as it is written in a string. -/
def escapeChar (c : Char) : List Char :=
  if c = '"' then ['\\', '"']
  else if c = '\\' then ['\\', '\\']
  else if 0x20 ≤ c.toNat then [c]
  else if c = '\x08' then ['\\', 'b']
  else if c = '\t' then ['\\', 't']
  else if c = '\n' then ['\\', 'n']
  else if c = '\x0c' then ['\\', 'f']
  else if c = '\r' then ['\\', 'r']
  else ['\\', 'u', '0', '0', Nat.digitChar (c.toNat / 16), Nat.digitChar (c.toNat % 16)]

/-- A string between quotes. -/
def stringText (s : String) : List Char := '"' :: s.toList.flatMap escapeChar ++ ['"']

def Number.text : Number → List Char
  | whole i => (toString i).toList
  | real x => (realLayout.text x).toList

/-- Texts with a separator between them. -/
def separated (separator : List Char) (texts : List (List Char)) : List Char :=
  separator.intercalate texts

mutual

/-- A value on one line. -/
def text : Json → List Char
  | .null => "null".toList
  | .bool b => if b then "true".toList else "false".toList
  | .number n => n.text
  | .string s => stringText s
  | .array items => '[' :: separated [','] (itemTexts items) ++ [']']
  | .object fields => '\x7b' :: separated [','] (fieldTexts fields) ++ ['\x7d']

def itemTexts : List Json → List (List Char)
  | [] => []
  | item :: rest => text item :: itemTexts rest

def fieldTexts : List (String × Json) → List (List Char)
  | [] => []
  | (name, value) :: rest => (stringText name ++ ':' :: text value) :: fieldTexts rest

end

/-- A value on one line. -/
def compact (j : Json) : String := String.ofList j.text

/-- The start of a new line that is indented by two spaces per level. -/
def newLine (level : Nat) : List Char := '\n' :: List.replicate (2 * level) ' '

/-- The lines of items or fields between two brackets. -/
def block (level : Nat) (opening closing : Char) (texts : List (List Char)) : List Char :=
  if texts.isEmpty then [opening, closing]
  else
    opening :: newLine (level + 1) ++ separated (',' :: newLine (level + 1)) texts ++
      newLine level ++ [closing]

mutual

/-- A value in lines, the first of which starts at the given level. -/
def lines (level : Nat) : Json → List Char
  | .null => "null".toList
  | .bool b => if b then "true".toList else "false".toList
  | .number n => n.text
  | .string s => stringText s
  | .array items => block level '[' ']' (itemLines (level + 1) items)
  | .object fields => block level '\x7b' '\x7d' (fieldLines (level + 1) fields)

def itemLines (level : Nat) : List Json → List (List Char)
  | [] => []
  | item :: rest => lines level item :: itemLines level rest

def fieldLines (level : Nat) : List (String × Json) → List (List Char)
  | [] => []
  | (name, value) :: rest =>
    (stringText name ++ ':' :: ' ' :: lines level value) :: fieldLines level rest

end

/-- A value in lines. -/
def pretty (j : Json) : String := String.ofList (j.lines 0)

end QueryWatch.Json
