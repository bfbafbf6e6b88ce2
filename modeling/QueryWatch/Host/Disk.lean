import QueryWatch.Path
import QueryWatch.Text.Utf8

/-!
What stands on a disk, as far as sockets and directories are concerned: whether a directory can be
made, whether a socket can be put at a path, and why a path leads to no socket.
-/

set_option autoImplicit false

namespace QueryWatch

/-- The places at which plain files and directories are, and those in which nothing can be made. -/
structure Disk where
  isFile : String → Bool
  isDirectory : String → Bool
  isSealed : String → Bool

/-- Why there is no socket at a path, or no directory can be made there. -/
inductive PathError
  | tooLong
  | empty
  | notDirectory
  | notSocket
  | notFound
  deriving DecidableEq, Repr

def PathError.message : PathError → String
  | tooLong => "path must be shorter than SUN_LEN"
  | empty => "Invalid argument (os error 22)"
  | notDirectory => "Not a directory (os error 20)"
  | notSocket => "Connection refused (os error 111)"
  | notFound => "No such file or directory (os error 2)"

namespace Disk

/-- How many bytes the path of a socket may have. -/
def maxSocketPath : Nat := 107

def pathSize (path : String) : Nat := (Text.Utf8.encode path).length

/-- Why a directory cannot be made at a path with all that is above it, if so. -/
def directoryError? (disk : Disk) (path : String) : Option PathError :=
  let places := Path.places path
  if places.any disk.isFile then some .notDirectory
  else if places.any disk.isSealed && !places.all disk.isDirectory then some .notFound
  else none

/-- Why a path at which nobody listens leads to no socket. -/
def connectError (disk : Disk) (path : String) : PathError :=
  let places := Path.places path
  if maxSocketPath < pathSize path then .tooLong
  else if path = "" then .empty
  else if places.dropLast.any disk.isFile then .notDirectory
  else if places.all disk.isDirectory || places.getLast?.any disk.isFile then .notSocket
  else .notFound

/-- Whether a socket can be put at a path: its directory is there or can be made, and what stands at
the path itself, if anything, is a file that can be taken away. -/
def canListen (disk : Disk) (path : String) : Bool :=
  let parts := Path.parts path
  let places := Path.places path
  pathSize path ≤ maxSocketPath && !path.toList.contains '\x00' &&
    (match parts.getLast? with
      | none => false
      | some last => last != ['.', '.']) &&
    !places.dropLast.any disk.isFile && !places.any disk.isSealed &&
    !places.getLast?.any disk.isDirectory

end Disk
end QueryWatch
