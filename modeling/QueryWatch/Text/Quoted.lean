import QueryWatch.Text.LowerCase
import QueryWatch.Text.ShownTable

/-!
Texts quoted inside messages. A quoted text shows on one line which characters it holds: quotes and
backslashes are escaped, control characters with a name get it, and every character that would be
invisible or would join the one before it is written by its number.
-/

set_option autoImplicit false

namespace QueryWatch.Text

/-- Whether a character can stand in a quoted text as itself. -/
def isShown (c : Char) : Bool :=
  let n := c.toNat
  if n < 0x7F then 0x20 ≤ n
  else !inRanges joiningRanges n && !inRanges hiddenRanges n

/-- The digits of a number in base 16, in lower case. -/
def hexDigits (n : Nat) : List Char := Nat.toDigits 16 n

/-- A character as it is written in a quoted text. -/
def quoteChar (c : Char) : List Char :=
  if c = '"' then ['\\', '"']
  else if c = '\\' then ['\\', '\\']
  else if c = '\n' then ['\\', 'n']
  else if c = '\r' then ['\\', 'r']
  else if c = '\t' then ['\\', 't']
  else if c.toNat = 0 then ['\\', '0']
  else if isShown c then [c]
  else ['\\', 'u', '\x7b'] ++ hexDigits c.toNat ++ ['\x7d']

/-- A text between quotes, in a form that shows every character it holds. -/
def quoted (s : String) : String :=
  String.ofList ('"' :: s.toList.flatMap quoteChar ++ ['"'])

end QueryWatch.Text
