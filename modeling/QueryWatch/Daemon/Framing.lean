import QueryWatch.Protocol.Request

/-!
How a request is cut out of what a connection brings. Bytes are taken until a piece with a newline
has come or the connection ends; the request is what stands before the first newline. A connection
that brings too much without a newline is refused.
-/

set_option autoImplicit false

namespace QueryWatch

open Text (Bytes)

/-- Why no request could be read. -/
inductive RequestError
  | tooLarge
  | empty
  | notJson (error : Json.ReadError)
  deriving DecidableEq, Repr

def RequestError.report : RequestError → ErrorReport
  | tooLarge => ⟨"request_too_large", "request exceeded maximum size"⟩
  | empty => ⟨"empty_request", "request body was empty"⟩
  | notJson error => ⟨"invalid_json", "request was not valid JSON: " ++ error.message⟩

namespace Framing

def newline : UInt8 := 10

/-- The ASCII characters that count as blank around a request. -/
def isBlankByte (b : UInt8) : Bool := b == 32 || b == 9 || b == 10 || b == 12 || b == 13

/-- The bytes of a connection up to the end of the piece that has the first newline in it, after
`size` bytes in the pieces `read`, latest first. -/
def collect (size : Nat) (read : List Bytes) : List Bytes → Except RequestError Bytes
  | [] => .ok read.reverse.flatten
  | piece :: rest =>
    let size := size + piece.length
    if maxRequestBytes < size then .error .tooLarge
    else if piece.contains newline then .ok (piece :: read).reverse.flatten
    else collect size (piece :: read) rest

/-- The line a request stands on. -/
def firstLine (bytes : Bytes) : Bytes := bytes.takeWhile (· != newline)

/-- The request in the bytes of a connection. -/
def parse (bytes : Bytes) : Except RequestError Request :=
  let line := firstLine bytes
  if line.all isBlankByte then .error .empty
  else (Request.ofBytes line).mapError .notJson

/-- The request that a connection brings in pieces. -/
def requestOf (pieces : List Bytes) : Except RequestError Request :=
  match collect 0 [] pieces with
  | .error e => .error e
  | .ok bytes => parse bytes

/-- How many bytes are taken from a connection at a time. -/
def pieceSize : Nat := 4096

/-- Bytes cut into pieces of a size, the last of which may be smaller. -/
def pieces (size : Nat) (bytes : Bytes) : List Bytes :=
  if _ : bytes = [] ∨ size = 0 then []
  else bytes.take size :: pieces size (bytes.drop size)
termination_by bytes.length
decreasing_by
  rename_i h
  obtain ⟨nonempty, positive⟩ := not_or.mp h
  have := List.length_pos_iff.mpr nonempty
  simp only [List.length_drop]
  omega

end Framing
end QueryWatch
