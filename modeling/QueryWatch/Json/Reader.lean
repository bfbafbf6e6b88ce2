import QueryWatch.Json.NumberText
import QueryWatch.Json.StringText

/-!
Reading JSON texts. The loops over list items and object fields take the reading of one value as a
parameter, so that `scanValue` recurses on the depth of nesting that is left and the loops on a
number of rounds that the length of the text bounds. Objects keep the last of several fields of one
name.
-/

set_option autoImplicit false

namespace QueryWatch.Json

open Text (Bytes)

/-- How deep lists and objects may be nested. -/
def maxDepth : Nat := 127

def isSpace (b : UInt8) : Bool := b == 32 || b == 10 || b == 9 || b == 13

/-- A text without the white space before its next token. -/
def skipSpace (s : Bytes) : Bytes := s.dropWhile isSpace

/-- Reads the letters of a word. -/
def scanWord : (letters : Bytes) → Bytes → Except Stop Bytes
  | [], s => .ok s
  | _ :: _, [] => .error (.fault .endInValue [])
  | a :: letters, b :: s =>
    if a = b then scanWord letters s else .error (.fault .wordExpected s)

/-- Reads the rest of a word whose value is known from its first letter. -/
def scanNamed (letters : Bytes) (value : Json) (s : Bytes) : Scan Json :=
  match scanWord letters s with
  | .error stop => .error stop
  | .ok r => .ok (value, r)

/-- Reads the items of a list that are left, at least one, behind those already read, latest
first. -/
def scanItems (item : Bytes → Scan Json) : (rounds : Nat) → (read : List Json) → Bytes → Scan Json
  | 0, _, s => .error (.fault .endInList s)
  | rounds + 1, read, s =>
    match item s with
    | .error stop => .error stop
    | .ok (value, s) =>
      match skipSpace s with
      | [] => .error (.fault .endInList [])
      | c :: r =>
        if c = 93 then .ok (.array (value :: read).reverse, r)
        else if c = 44 then
          match skipSpace r with
          | [] => .error (.fault .endInValue [])
          | d :: t =>
            if d = 93 then .error (.fault .trailingComma t)
            else scanItems item rounds (value :: read) (d :: t)
        else .error (.fault .listEndExpected r)

/-- Reads a list behind its opening bracket. -/
def scanList (item : Bytes → Scan Json) (rounds : Nat) (s : Bytes) : Scan Json :=
  match skipSpace s with
  | [] => .error (.fault .endInList [])
  | c :: r => if c = 93 then .ok (.array [], r) else scanItems item rounds [] (c :: r)

/-- Reads the colon behind a field's name. -/
def scanColon (s : Bytes) : Except Stop Bytes :=
  match skipSpace s with
  | [] => .error (.fault .endInObject [])
  | c :: r => if c = 58 then .ok r else .error (.fault .colonExpected r)

/-- Reads a field's name and its colon, behind the opening quote. -/
def scanName (fuel : Nat) (s : Bytes) : Scan String :=
  match scanString fuel s with
  | .error stop => .error stop
  | .ok (name, s) =>
    match scanColon s with
    | .error stop => .error stop
    | .ok s => .ok (name, s)

/-- Reads the fields of an object that are left, at least one, behind the opening quote of its name
and behind the fields already read, latest first. -/
def scanFields (value : Bytes → Scan Json) (fuel : Nat) :
    (rounds : Nat) → (read : List (String × Json)) → Bytes → Scan Json
  | 0, _, s => .error (.fault .endInObject s)
  | rounds + 1, read, s =>
    match scanName fuel s with
    | .error stop => .error stop
    | .ok (name, s) =>
      match value s with
      | .error stop => .error stop
      | .ok (v, s) =>
        match skipSpace s with
        | [] => .error (.fault .endInObject [])
        | c :: r =>
          if c = 125 then .ok (.object (Fields.ofRecent ((name, v) :: read)), r)
          else if c = 44 then
            match skipSpace r with
            | [] => .error (.fault .endInValue [])
            | d :: t =>
              if d = 34 then scanFields value fuel rounds ((name, v) :: read) t
              else if d = 125 then .error (.fault .trailingComma t)
              else .error (.fault .keyNotString t)
          else .error (.fault .objectEndExpected r)

/-- Reads an object behind its opening brace. -/
def scanObject (value : Bytes → Scan Json) (fuel : Nat) (s : Bytes) : Scan Json :=
  match skipSpace s with
  | [] => .error (.fault .endInObject [])
  | c :: r =>
    if c = 125 then .ok (.object [], r)
    else if c = 34 then scanFields value fuel fuel [] r
    else .error (.fault .keyNotString r)

/-- Reads a number as a value. -/
def scanNumberValue (negative : Bool) (s : Bytes) : Scan Json :=
  match scanNumber negative s with
  | .error stop => .error stop
  | .ok (n, r) => .ok (.number n, r)

/-- Reads a string as a value, behind its opening quote. -/
def scanStringValue (fuel : Nat) (s : Bytes) : Scan Json :=
  match scanString fuel s with
  | .error stop => .error stop
  | .ok (text, r) => .ok (.string text, r)

/-- Reads a value. The fuel is a number not below the length of the text; lists and objects can be
nested `depth` deep. -/
def scanValue (fuel : Nat) : (depth : Nat) → Bytes → Scan Json
  | depth, s =>
    match skipSpace s with
    | [] => .error (.fault .endInValue [])
    | c :: r =>
      if c = 110 then scanNamed [117, 108, 108] .null r
      else if c = 116 then scanNamed [114, 117, 101] (.bool true) r
      else if c = 102 then scanNamed [97, 108, 115, 101] (.bool false) r
      else if c = 45 then scanNumberValue true r
      else if isDigit c then scanNumberValue false (c :: r)
      else if c = 34 then scanStringValue fuel r
      else if c = 91 then
        match depth with
        | 0 => .error (.fault .tooDeep r)
        | depth + 1 => scanList (scanValue fuel depth) fuel r
      else if c = 123 then
        match depth with
        | 0 => .error (.fault .tooDeep r)
        | depth + 1 => scanObject (scanValue fuel depth) fuel r
      else .error (.fault .valueExpected r)

/-- Checks that nothing but white space follows. -/
def endOfText (s : Bytes) : Except Stop Unit :=
  match skipSpace s with
  | [] => .ok ()
  | _ :: r => .error (.fault .trailingCharacters r)

/-- Reads a whole text by `scan`. -/
def readWhole {α : Type} (scan : Bytes → Scan α) (text : Bytes) : Except ReadError α :=
  match scan text with
  | .error stop => .error (stop.error text)
  | .ok (a, rest) =>
    match endOfText rest with
    | .error stop => .error (stop.error text)
    | .ok () => .ok a

/-- The value a text stands for. -/
def ofBytes (text : Bytes) : Except ReadError Json :=
  readWhole (scanValue (text.length + 1) maxDepth) text

/-- The value a text stands for. -/
def ofText (text : String) : Except ReadError Json := ofBytes (Text.Utf8.encode text)

end QueryWatch.Json
