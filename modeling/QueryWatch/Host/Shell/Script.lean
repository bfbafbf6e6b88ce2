import QueryWatch.Text.Utf8

/-!
Scripts of the shell: commands of words and redirections, one after the other, some of them only if
the one before succeeds or fails, and some reading what the one before writes.
-/

set_option autoImplicit false

namespace QueryWatch.Shell

open Text (Bytes)

/-- What stands for a variable: its value; a text instead when it is unset; a text instead when it
is set. With `orEmpty` an empty variable counts as unset. -/
inductive Substitution
  | value
  | whenUnset (orEmpty : Bool) (text : String)
  | whenSet (orEmpty : Bool) (text : String)
  deriving DecidableEq, Repr

/-- A part of a word: text, what stands for a variable, or what a script writes. Text that is in
quotes or stands in the word itself is not cut into words. -/
inductive Piece
  | text (inQuotes : Bool) (bytes : Bytes)
  | parameter (inQuotes : Bool) (name : String) (substitution : Substitution)
  | output (inQuotes : Bool) (script : String)
  deriving DecidableEq, Repr

/-- A word, and whether it has quotes somewhere, so that it counts even if nothing is in it. -/
structure Word where
  pieces : List Piece := []
  hasQuotes : Bool := false
  deriving DecidableEq, Repr

/-- Where what a command writes to one of its outputs goes instead. -/
inductive Target
  | descriptor (n : Nat)
  | file (word : Word)
  deriving DecidableEq, Repr

structure Redirect where
  descriptor : Nat
  target : Target
  deriving DecidableEq, Repr

structure SimpleCommand where
  words : List Word := []
  redirects : List Redirect := []
  deriving DecidableEq, Repr

/-- When a command is run after the one before. -/
inductive Link
  | always
  | onSuccess
  | onFailure
  deriving DecidableEq, Repr

/-- Commands each of which reads what the one before writes. -/
structure Pipeline where
  link : Link
  commands : List SimpleCommand
  deriving DecidableEq, Repr

inductive Token
  | word (w : Word)
  | redirect (descriptor : Nat) (toDescriptor : Bool)
  | pipe
  | link (l : Link)
  deriving DecidableEq, Repr

/-! ### Words -/

def isNameChar (c : Char) : Bool := c.isAlphanum || c = '_'

/-- The text up to a closing brace, and what is behind it. -/
def upToBrace (s : List Char) : Option (String × List Char) :=
  let text := s.takeWhile (· ≠ '\x7d')
  match s.drop text.length with
  | _ :: r => some (String.ofList text, r)
  | [] => none

/-- What stands for a variable, behind its name in braces. -/
def substitution (s : List Char) : Option (Substitution × List Char) :=
  match s with
  | '\x7d' :: r => some (.value, r)
  | ':' :: '-' :: r => (upToBrace r).map fun (text, r) ↦ (.whenUnset true text, r)
  | ':' :: '+' :: r => (upToBrace r).map fun (text, r) ↦ (.whenSet true text, r)
  | '-' :: r => (upToBrace r).map fun (text, r) ↦ (.whenUnset false text, r)
  | '+' :: r => (upToBrace r).map fun (text, r) ↦ (.whenSet false text, r)
  | _ => none

/-- The text up to the parenthesis that closes so many open ones, and what is behind it. -/
def upToParenthesis (text : List Char) : (opened : Nat) → List Char → Option (String × List Char)
  | _, [] => none
  | opened, c :: r =>
    if c = ')' then
      match opened with
      | 0 => some (String.ofList text.reverse, r)
      | outer + 1 => upToParenthesis (c :: text) outer r
    else upToParenthesis (c :: text) (if c = '(' then opened + 1 else opened) r

/-- The letters that are names of variables by themselves. -/
def isLetterName (c : Char) : Bool := ['$', '?', '#', '@', '*'].contains c

/-- The variable or script behind a dollar sign. -/
def parameterAt (inQuotes : Bool) (s : List Char) : Option (Piece × List Char) :=
  match s with
  | '\x7b' :: r =>
    let name := r.takeWhile isNameChar
    (substitution (r.drop name.length)).map fun (substitution, r) ↦
      (.parameter inQuotes (String.ofList name) substitution, r)
  | '(' :: r => (upToParenthesis [] 0 r).map fun (script, r) ↦ (.output inQuotes script, r)
  | c :: r =>
    if isLetterName c then some (.parameter inQuotes (String.singleton c) .value, r)
    else
      match s.takeWhile isNameChar with
      | [] => none
      | name => some (.parameter inQuotes (String.ofList name) .value, s.drop name.length)
  | [] => none

/-- The script behind an opening backquote. -/
def quotedScript (inQuotes : Bool) (s : List Char) : Option (Piece × List Char) :=
  let text := s.takeWhile (· ≠ '\x60')
  match s.drop text.length with
  | _ :: r => some (.output inQuotes (String.ofList text), r)
  | [] => none

def textPiece (c : Char) : Piece := .text true (Text.Utf8.encodeChar c)

/-- Reads the rest of a part in double quotes, behind the pieces read, latest first. -/
def inDouble : (fuel : Nat) → List Piece → List Char → Option (List Piece × List Char)
  | 0, _, _ => none
  | _ + 1, _, [] => none
  | fuel + 1, read, c :: r =>
    if c = '"' then some (read, r)
    else if c = '\\' then
      match r with
      | d :: r =>
        if ['"', '\\', '$', '\x60'].contains d then inDouble fuel (textPiece d :: read) r
        else if d = '\n' then inDouble fuel read r
        else inDouble fuel (textPiece d :: textPiece '\\' :: read) r
      | [] => none
    else if c = '$' then
      match parameterAt true r with
      | some (piece, r) => inDouble fuel (piece :: read) r
      | none => inDouble fuel (textPiece '$' :: read) r
    else if c = '\x60' then
      match quotedScript true r with
      | some (piece, r) => inDouble fuel (piece :: read) r
      | none => none
    else inDouble fuel (textPiece c :: read) r

/-- The characters that end a word. -/
def isSpecial (c : Char) : Bool := [' ', '\t', '\n', ';', '&', '|', '<', '>', '(', ')'].contains c

/-- Reads a word, behind the pieces read, latest first. -/
def wordOnto : (fuel : Nat) → Word → List Char → Option (Word × List Char)
  | 0, _, _ => none
  | _ + 1, w, [] => some ({ w with pieces := w.pieces.reverse }, [])
  | fuel + 1, w, c :: r =>
    if isSpecial c then some ({ w with pieces := w.pieces.reverse }, c :: r)
    else if c = '\'' then
      let text := r.takeWhile (· ≠ '\'')
      match r.drop text.length with
      | _ :: r =>
        wordOnto fuel ⟨.text true (Text.Utf8.encode (String.ofList text)) :: w.pieces, true⟩ r
      | [] => none
    else if c = '"' then
      match inDouble fuel w.pieces r with
      | some (pieces, r) => wordOnto fuel ⟨pieces, true⟩ r
      | none => none
    else if c = '\\' then
      match r with
      | d :: r => wordOnto fuel ⟨textPiece d :: w.pieces, true⟩ r
      | [] => wordOnto fuel { w with pieces := textPiece '\\' :: w.pieces } []
    else if c = '$' then
      match parameterAt false r with
      | some (piece, r) => wordOnto fuel { w with pieces := piece :: w.pieces } r
      | none => wordOnto fuel { w with pieces := textPiece '$' :: w.pieces } r
    else if c = '\x60' then
      match quotedScript false r with
      | some (piece, r) => wordOnto fuel { w with pieces := piece :: w.pieces } r
      | none => none
    else wordOnto fuel { w with pieces := textPiece c :: w.pieces } r

/-! ### Scripts -/

/-- The sign for a redirection, behind the number of its output. -/
def redirection (descriptor : Nat) (s : List Char) : Option (Token × List Char) :=
  match s with
  | '>' :: '&' :: r => some (.redirect descriptor true, r)
  | '>' :: '>' :: r => some (.redirect descriptor false, r)
  | '>' :: r => some (.redirect descriptor false, r)
  | _ => none

/-- Reads the tokens of a script, behind those read, latest first. -/
def tokens : (fuel : Nat) → List Token → List Char → Option (List Token)
  | 0, _, _ => none
  | _ + 1, read, [] => some read.reverse
  | fuel + 1, read, c :: r =>
    let go (token : Token) (r : List Char) := tokens fuel (token :: read) r
    match c, r with
    | ' ', _ => tokens fuel read r
    | '\t', _ => tokens fuel read r
    | '\n', _ => go (.link .always) r
    | ';', _ => go (.link .always) r
    | '#', _ => tokens fuel read (r.dropWhile (· ≠ '\n'))
    | '&', '&' :: r => go (.link .onSuccess) r
    | '|', '|' :: r => go (.link .onFailure) r
    | '|', _ => go .pipe r
    | '<', _ => go (.redirect 0 false) r
    | '>', _ =>
      match redirection 1 (c :: r) with
      | some (token, r) => go token r
      | none => none
    | _, _ =>
      match if c.isDigit then redirection (c.toNat - 48) r else none with
      | some (token, r) => go token r
      | none =>
        match wordOnto (r.length + 2) {} (c :: r) with
        | some (w, r) => if w.pieces.isEmpty && !w.hasQuotes then none else go (.word w) r
        | none => none

/-- The number a word consists of. -/
def Word.digit? (w : Word) : Option Nat :=
  match w.pieces with
  | [.text _ [b]] => if 48 ≤ b && b ≤ 57 then some (b.toNat - 48) else none
  | _ => none

/-- Puts tokens together, behind the pipelines read, latest first: `commands` are those of the
pipeline under way, latest first, and `current` is the command under way. -/
def assemble (done : List Pipeline) (link : Link) (commands : List SimpleCommand)
    (current : SimpleCommand) : List Token → Option (List Pipeline)
  | [] =>
    let commands := current :: commands
    some (⟨link, commands.reverse⟩ :: done).reverse
  | .word w :: rest =>
    assemble done link commands { current with words := current.words ++ [w] } rest
  | .redirect n toDescriptor :: .word w :: rest =>
    let target : Option Target :=
      if toDescriptor then w.digit?.map .descriptor else some (.file w)
    match target with
    | some target =>
      assemble done link commands
        { current with redirects := current.redirects ++ [⟨n, target⟩] } rest
    | none => none
  | .redirect _ _ :: _ => none
  | .pipe :: rest => assemble done link (current :: commands) {} rest
  | .link next :: rest =>
    assemble (⟨link, (current :: commands).reverse⟩ :: done) next [] {} rest

/-- The pipelines of a script, or `none` if it cannot be read. -/
def parse (script : String) : Option (List Pipeline) :=
  let s := script.toList
  (tokens (s.length + 1) [] s).bind (assemble [] .always [] {})

end QueryWatch.Shell
