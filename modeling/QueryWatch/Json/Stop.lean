import QueryWatch.Json.Mismatch
import QueryWatch.Text.Utf8

/-!
Where and why the reading of a JSON text stops. A stop holds the bytes that were not read when it
was noticed; its line and column follow from them (`Position.ofUnread`).
-/

set_option autoImplicit false

namespace QueryWatch.Json

open Text (Bytes)

/-- How a text fails to be JSON. -/
inductive Fault
  | endInValue
  | endInList
  | endInObject
  | endInString
  | colonExpected
  | listEndExpected
  | objectEndExpected
  | wordExpected
  | valueExpected
  | invalidEscape
  | invalidNumber
  | numberOutOfRange
  | invalidCodePoint
  | controlCharacter
  | keyNotString
  | loneSurrogate
  | trailingComma
  | trailingCharacters
  | endInHexEscape
  | tooDeep
  deriving DecidableEq, Repr

def Fault.message : Fault → String
  | endInValue => "EOF while parsing a value"
  | endInList => "EOF while parsing a list"
  | endInObject => "EOF while parsing an object"
  | endInString => "EOF while parsing a string"
  | colonExpected => "expected `:`"
  | listEndExpected => "expected `,` or `]`"
  | objectEndExpected => "expected `,` or `\x7d`"
  | wordExpected => "expected ident"
  | valueExpected => "expected value"
  | invalidEscape => "invalid escape"
  | invalidNumber => "invalid number"
  | numberOutOfRange => "number out of range"
  | invalidCodePoint => "invalid unicode code point"
  | controlCharacter => "control character (\\u0000-\\u001F) found while parsing a string"
  | keyNotString => "key must be a string"
  | loneSurrogate => "lone leading surrogate in hex escape"
  | trailingComma => "trailing comma"
  | trailingCharacters => "trailing characters"
  | endInHexEscape => "unexpected end of hex escape"
  | tooDeep => "recursion limit exceeded"

/-- Why reading stops: the text is no JSON, or a value is not of the type asked for. -/
inductive Cause
  | fault (f : Fault)
  | mismatch (m : Mismatch)
  deriving DecidableEq, Repr

def Cause.message : Cause → String
  | fault f => f.message
  | mismatch m => m.message

/-- A line, from one on, and the number of bytes read of it. -/
structure Position where
  line : Nat
  column : Nat
  deriving DecidableEq, Repr

/-- The position behind all bytes of a text but the last `unread`. -/
def Position.ofUnread (text : Bytes) (unread : Nat) : Position :=
  let read := text.take (text.length - unread)
  let current := read.reverse.takeWhile (· != 10)
  ⟨1 + read.count 10, current.length⟩

/-- A stop: its cause, and the bytes not read when it was noticed. A stop that is not `placed` is
moved to the end of the record in which it arose, as far as that end can be read. -/
structure Stop where
  cause : Cause
  unread : Bytes
  placed : Bool
  deriving DecidableEq, Repr

/-- A fault before the given bytes. -/
def Stop.fault (f : Fault) (unread : Bytes) : Stop := ⟨.fault f, unread, true⟩

/-- A fault at the next byte, which counts as read. -/
def Stop.atNext (f : Fault) (unread : Bytes) : Stop := ⟨.fault f, unread.drop 1, true⟩

/-- What reading gives: a result and the bytes behind it, or a stop. -/
abbrev Scan (α : Type) := Except Stop (α × Bytes)

/-- The error of a text that could not be read: the cause, and where it was noticed. -/
structure ReadError where
  cause : Cause
  position : Position
  deriving DecidableEq, Repr

def ReadError.message (e : ReadError) : String :=
  e.cause.message ++ " at line " ++ toString e.position.line ++ " column " ++
    toString e.position.column

/-- The error of a stop in the given text. -/
def Stop.error (text : Bytes) (s : Stop) : ReadError :=
  ⟨s.cause, .ofUnread text s.unread.length⟩

end QueryWatch.Json
