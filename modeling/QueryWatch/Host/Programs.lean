import QueryWatch.Host.Program

/-!
The programs of a small host that are not the shell: one that copies its input, one that counts what
is in it, and one that waits.
-/

set_option autoImplicit false

namespace QueryWatch.Host

open Text (Bytes)

/-- How many nanoseconds a program takes that does not wait. -/
def briefly : Nat := 1000000

/-- What a command does with the input it is given: what it writes and leaves of it, with what code
it ends, and how long it takes. -/
structure Effect where
  output : Bytes := []
  errors : Bytes := []
  unread : Bytes := []
  code : Nat := 0
  nanos : Nat := briefly
  deriving DecidableEq, Repr

def bytes (s : String) : Bytes := Text.Utf8.encode s

/-! ### Copying -/

/-- Copies files, of which only the input and the empty file are there. -/
def copy (input : Bytes) : List String → Effect
  | [] => { unread := input }
  | name :: rest =>
    if name = "-" then
      let e := copy [] rest
      { e with output := input ++ e.output }
    else if name = "/dev/null" then copy input rest
    else
      let e := copy input rest
      { e with
        errors := bytes ("cat: " ++ name ++ ": No such file or directory\n") ++ e.errors
        code := 1 }

def cat (args : List String) (input : Bytes) : Effect :=
  copy input (if args.isEmpty then ["-"] else args)

/-! ### Counting -/

def isBlankByte (b : UInt8) : Bool := b == 32 || (9 ≤ b && b ≤ 13)

/-- The number of words: of the bytes that are not blank and stand first or behind a blank. -/
def wordCount (behindBlank : Bool) : Bytes → Nat
  | [] => 0
  | b :: rest =>
    if isBlankByte b then wordCount true rest
    else (if behindBlank then 1 else 0) + wordCount false rest

/-- A number in seven columns. -/
def column (n : Nat) : String :=
  let digits := toString n
  String.ofList (List.replicate (7 - digits.length) ' ') ++ digits

/-- The counts that are asked for by letters: lines, words, characters, bytes. -/
def counts (asked : List Char) (input : Bytes) : String :=
  let counts :=
    (if asked.contains 'l' then [input.count 10] else []) ++
    (if asked.contains 'w' then [wordCount true input] else []) ++
    (if asked.contains 'm' then [input.length] else []) ++
    (if asked.contains 'c' then [input.length] else [])
  match counts with
  | [n] => toString n
  | counts => " ".intercalate (counts.map column)

/-- Whether an argument gives options by letters. -/
def givesOptions (arg : String) : Bool := arg.startsWith "-" && arg ≠ "-"

/-- Counts lines, words and bytes, or those of them that are asked for. Of files only the input is
there. -/
def wc (args : List String) (input : Bytes) : Effect :=
  let asked := (args.filter givesOptions).flatMap fun a ↦ a.toList.drop 1
  let asked := if asked.isEmpty then ['l', 'w', 'c'] else asked
  match args.filter fun a ↦ !givesOptions a with
  | [] => { output := bytes (counts asked input ++ "\n") }
  | name :: _ =>
    if name = "-" then { output := bytes (counts asked input ++ " -\n") }
    else
      { errors := bytes ("wc: " ++ name ++ ": No such file or directory\n")
        unread := input
        code := 1 }

/-! ### Waiting -/

/-- The seconds of a unit. -/
def unitSeconds (unit : List Char) : Option Nat :=
  match unit with
  | [] => some 1
  | ['s'] => some 1
  | ['m'] => some 60
  | ['h'] => some 3600
  | ['d'] => some 86400
  | _ => none

/-- The nanoseconds of a number of seconds, or of another unit. -/
def waitNanos (s : String) : Option Nat :=
  let whole := s.toList.takeWhile Char.isDigit
  let rest := s.toList.drop whole.length
  let (fraction, unit) := match rest with
    | '.' :: r => r.span Char.isDigit
    | r => ([], r)
  if whole.isEmpty && fraction.isEmpty then none
  else
    let digits := (whole ++ fraction).foldl (fun n c ↦ 10 * n + (c.toNat - 48)) 0
    (unitSeconds unit).map fun seconds ↦
      digits * seconds * 1000000000 / Nat.pow 10 fraction.length

/-- A complaint of the program that waits. -/
def sleepComplaint (text : String) : Bytes :=
  bytes ("sleep: " ++ text ++ "\nTry 'sleep --help' for more information.\n")

def sleep (args : List String) (input : Bytes) : Effect :=
  match args, args.find? fun a ↦ (waitNanos a).isNone with
  | [], _ => { errors := sleepComplaint "missing operand", unread := input, code := 1 }
  | _, some wrong =>
    { errors := sleepComplaint ("invalid time interval '" ++ wrong ++ "'")
      unread := input
      code := 1 }
  | args, none => { unread := input, nanos := (args.filterMap waitNanos).foldl (· + ·) briefly }

/-- The program of a name. -/
def program? (name : String) : Option (List String → Bytes → Effect) :=
  if name = "cat" then some cat
  else if name = "wc" then some wc
  else if name = "sleep" then some sleep
  else none

end QueryWatch.Host
