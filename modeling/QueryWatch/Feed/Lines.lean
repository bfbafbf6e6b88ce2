import QueryWatch.Protocol.Request
import QueryWatch.Text.Blank
import QueryWatch.Text.Utf8

/-!
How the bytes of a feed become texts. Each line is a text, read as UTF-8 with a replacement for what
is ill-formed, and without the blanks around it; blank lines are passed over. A line that has grown
too long is given up when the feed pauses, and at its end if no newline ends it.
-/

set_option autoImplicit false

namespace QueryWatch

open Text (Bytes)

/-- The bytes of a line that has not ended, latest first. -/
structure LineReader where
  unfinished : Bytes := []
  deriving DecidableEq, Repr

namespace LineReader

def newline : UInt8 := 10

/-- Reads bytes, behind lines that have ended and are `done`, latest first. -/
def readOnto (done : List Bytes) (unfinished : Bytes) : Bytes → List Bytes × Bytes
  | [] => (done, unfinished)
  | b :: rest =>
    if b = newline then readOnto (unfinished.reverse :: done) [] rest
    else readOnto done (b :: unfinished) rest

/-- Reads bytes; gives the lines that end among them. -/
def read (r : LineReader) (bytes : Bytes) : List Bytes × LineReader :=
  let (done, unfinished) := readOnto [] r.unfinished bytes
  (done.reverse, ⟨unfinished⟩)

def isTooLong (r : LineReader) : Bool := maxRequestBytes < r.unfinished.length

/-- Nothing has come for a while. -/
def pause (r : LineReader) : LineReader := if r.isTooLong then {} else r

/-- Nothing more will come; gives what counts as the last line. -/
def finish (r : LineReader) : Option Bytes :=
  if r.isTooLong then none else some r.unfinished.reverse

/-- The text of a line, if it says something. -/
def lineText (line : Bytes) : Option String :=
  let text := Text.trim (Text.Utf8.decodeLossy line)
  if text = "" then none else some text

end LineReader
end QueryWatch
