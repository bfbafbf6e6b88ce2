import QueryWatch.Toml.Scalar

/-!
Reading TOML documents. Values can be nested, and names have parts, up to a limit. A value stands on
one line, but for lists, whose items may stand on lines of their own with comments between them.
-/

set_option autoImplicit false

namespace QueryWatch.Toml

/-- How deep lists and inline tables may be nested, and how many parts a name may have. -/
def maxDepth : Nat := 79

/-! ### Names -/

/-- The characters of a name without quotes. -/
def isBare (c : Char) : Bool := c.isAlphanum || c = '_' || c = '-'

/-- Reads one part of a name. -/
def namePart : Part String := fun s ↦
  match s with
  | [] => none
  | c :: _ =>
    if c = '"' ∨ c = '\'' then lineString s
    else
      match s.takeWhile isBare with
      | [] => none
      | letters => some (String.ofList letters, s.drop letters.length)

/-- Reads the parts of a name, with blanks around each. -/
def nameParts : (fuel : Nat) → Part (List String)
  | 0, _ => none
  | fuel + 1, s =>
    match namePart (skipSpace s) with
    | none => none
    | some (part, r) =>
      match skipSpace r with
      | '.' :: r => (nameParts fuel r).map fun (parts, r) ↦ (part :: parts, r)
      | r => some ([part], r)

/-- Reads a name: the parts that lead to it, and its last one. -/
def name : Part (List String × String) := fun s ↦
  match nameParts maxDepth s with
  | none => none
  | some (parts, r) => parts.getLast?.map fun last ↦ ((parts.dropLast, last), r)

/-! ### Values -/

/-- Reads a comment, up to the end of its line. -/
def comment : List Char → List Char
  | '#' :: r => r.dropWhile isPlain
  | s => s

/-- Reads past blanks, comments and newlines between the items of a list. -/
def skipBetween : (fuel : Nat) → List Char → Option (List Char)
  | 0, _ => none
  | fuel + 1, s =>
    match skipLines s with
    | '#' :: r =>
      match newline? (comment ('#' :: r)) with
      | some r => skipBetween fuel r
      | none => none
    | r => some r

/-- Reads the items of a list that are left, behind those already read, latest first. -/
def items (value : Part Node) (fuel : Nat) : (rounds : Nat) → List Node → Part Node
  | 0, _, _ => none
  | rounds + 1, read, s =>
    match skipBetween fuel s with
    | none => none
    | some (']' :: r) => some (.list read.reverse, r)
    | some s =>
      match value s with
      | none => none
      | some (node, r) =>
        match skipBetween fuel r with
        | some (',' :: r) => items value fuel rounds (node :: read) r
        | some (']' :: r) => some (.list (node :: read).reverse, r)
        | _ => none

/-- Reads a name, the sign behind it, and a value. -/
def field (value : Part Node) : Part ((List String × String) × Node) := fun s ↦
  match name s with
  | some (name, '=' :: r) =>
    match value (skipSpace r) with
    | none => none
    | some (node, r) => some ((name, node), r)
  | _ => none

/-- Reads the fields of an inline table that are left, at least one. -/
def inlineFields (value : Part Node) : (rounds : Nat) → Fields → Part Node
  | 0, _, _ => none
  | rounds + 1, fields, s =>
    match field value s with
    | none => none
    | some (((path, name), node), r) =>
      match fields.insertInline name node path with
      | none => none
      | some fields =>
        match skipSpace r with
        | ',' :: r => inlineFields value rounds fields r
        | '\x7d' :: r => some (.inline false fields, r)
        | _ => none

/-- Reads a value in which lists and inline tables are nested up to `depth`. -/
def value (fuel : Nat) : (depth : Nat) → Part Node
  | depth, s =>
    match s with
    | [] => none
    | c :: r =>
      if c = '"' ∨ c = '\'' then (string s).map fun (text, r) ↦ (.string text, r)
      else if c = '[' then
        match depth with
        | 0 => none
        | depth + 1 => items (value fuel depth) fuel fuel [] r
      else if c = '\x7b' then
        match depth with
        | 0 => none
        | depth + 1 =>
          match skipSpace r with
          | '\x7d' :: r => some (.inline false [], r)
          | r => inlineFields (value fuel depth) fuel [] r
      else if c = '+' ∨ c = '-' ∨ c.isDigit then number s
      else if c = 't' then word "true" (.bool true) s
      else if c = 'f' then word "false" (.bool false) s
      else if c = 'i' then word "inf" .real s
      else if c = 'n' then word "nan" .real s
      else none

/-! ### Documents -/

/-- Reads the end of a line: blanks, a comment, and a newline unless the text ends. -/
def lineEnd (s : List Char) : Option (List Char) :=
  match comment (skipSpace s) with
  | [] => some []
  | r => newline? r

/-- Reads a name in a header and the end of its line. -/
def header (closing : List Char) : Part (List String × String) := fun s ↦
  match name s with
  | none => none
  | some (name, r) =>
    if closing.isPrefixOf r then (lineEnd (r.drop closing.length)).map (name, ·) else none

/-- Reads a line that is not blank. -/
def line (fuel : Nat) (d : Document) : Part Document := fun s ↦
  match s with
  | '[' :: '[' :: r =>
    match header [']', ']'] r with
    | none => none
    | some ((parents, name), r) => (d.openItem parents name).map (·, r)
  | '[' :: r =>
    match header [']'] r with
    | none => none
    | some ((parents, name), r) => (d.openTable parents name).map (·, r)
  | s =>
    match field (value fuel maxDepth) s with
    | none => none
    | some (((path, name), node), r) =>
      match lineEnd r with
      | none => none
      | some r => (d.insert path name node).map (·, r)

/-- Reads the lines that are left. -/
def linesFrom (fuel : Nat) : (rounds : Nat) → Document → List Char → Option Document
  | 0, _, _ => none
  | rounds + 1, d, s =>
    match skipSpace s with
    | [] => some d
    | '#' :: r =>
      match lineEnd ('#' :: r) with
      | some r => linesFrom fuel rounds d r
      | none => none
    | s =>
      match newline? s with
      | some r => linesFrom fuel rounds d r
      | none =>
        match line fuel d s with
        | some (d, r) => linesFrom fuel rounds d r
        | none => none

/-- The fields of a document. A mark of the byte order at its start does not count. -/
def read (text : String) : Option Fields :=
  let s := match text.toList with
    | '\uFEFF' :: r => r
    | r => r
  let fuel := s.length + 1
  (linesFrom fuel fuel {} s).map (·.fields)

end QueryWatch.Toml
