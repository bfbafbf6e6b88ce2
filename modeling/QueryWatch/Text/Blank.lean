/-!
Blank characters, and what is done at them: a text is trimmed of the blanks around it, and cut into
its words. A character is blank when Unicode gives it the property White_Space, so the no-break
space and the ideographic space count, and the zero width space does not.
-/

set_option autoImplicit false

namespace QueryWatch.Text

/-- The characters with the Unicode property White_Space. -/
def isBlank (c : Char) : Bool :=
  let n := c.toNat
  (9 ≤ n && n ≤ 13) || n == 0x20 || n == 0x85 || n == 0xA0 || n == 0x1680 ||
    (0x2000 ≤ n && n ≤ 0x200A) || n == 0x2028 || n == 0x2029 || n == 0x202F || n == 0x205F ||
    n == 0x3000

/-- A text without the blanks before its first other character. -/
def dropBlanks (s : List Char) : List Char := s.dropWhile isBlank

/-- A text without the blanks after its last other character. -/
def dropBlanksEnd (s : List Char) : List Char := (dropBlanks s.reverse).reverse

/-- A text without the blanks at either end. -/
def trim (s : String) : String := String.ofList (dropBlanksEnd (dropBlanks s.toList))

/-- A text without the blanks at its end. -/
def trimEnd (s : String) : String := String.ofList (dropBlanksEnd s.toList)

/-- Whether a text holds nothing but blanks. -/
def isBlankText (s : String) : Bool := s.toList.all isBlank

/-- A text that says something: a blank one counts as absent. -/
def unlessBlank (s : Option String) : Option String := s.filter fun t ↦ !isBlankText t

/-- The words of a text, latest first, when `done` are the words and `word` the letters, latest
first, read before it. -/
def wordsOnto (done : List (List Char)) (word : List Char) : List Char → List (List Char)
  | [] => if word.isEmpty then done else word.reverse :: done
  | c :: rest =>
    if isBlank c then
      wordsOnto (if word.isEmpty then done else word.reverse :: done) [] rest
    else
      wordsOnto done (c :: word) rest

/-- The maximal runs of characters that are not blank, in order. -/
def words (s : List Char) : List (List Char) := (wordsOnto [] [] s).reverse

end QueryWatch.Text
