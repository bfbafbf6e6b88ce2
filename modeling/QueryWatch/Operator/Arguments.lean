import QueryWatch.Operator.Ask

/-!
Reading the arguments of the operator's program. The first argument names a command; each command
says what places it has for values and what switches and options it takes. Arguments are read from
left to right, so the first one that asks for help or is wrong decides.
-/

set_option autoImplicit false

namespace QueryWatch

open Text (Bytes)

/-- What an operator wants: to ask the daemon something, or to send it telemetry. -/
inductive Order
  | ask (a : Ask)
  | send
  deriving DecidableEq, Repr

/-- What the arguments say. -/
inductive CommandLine
  | order (o : Order)
  | version
  | help
  | wrong
  deriving DecidableEq, Repr

namespace Arguments

/-- A place for a value: a text, or a number of 64 bits. -/
inductive Place
  | text
  | word64
  deriving DecidableEq, Repr

/-- An option, which takes a value. One that is not repeatable is given at most once. -/
structure OptionRule where
  long : String
  short : Char
  repeatable : Bool
  deriving DecidableEq, Repr

/-- What a command can be given. -/
structure Shape where
  places : List Place := []
  switches : List String := []
  options : List OptionRule := []
  deriving DecidableEq, Repr

/-- What a command is given: the values in its places, the switches, and the options, each with its
value, in the order in which they come. -/
structure Given where
  values : List String := []
  switches : List String := []
  options : List (String × String) := []
  deriving DecidableEq, Repr

/-- Why the arguments of a command say nothing. -/
inductive Halt
  | help
  | wrong
  deriving DecidableEq, Repr

/-! ### Values -/

/-- The number that digits stand for, if it has at most 64 bits. A plus sign may stand in front. -/
def word64? (s : String) : Option UInt64 :=
  let digits := match s.toList with
    | '+' :: rest => rest
    | digits => digits
  if digits.isEmpty || !digits.all Char.isDigit then none
  else
    let n : Nat := digits.foldl (fun n c ↦ 10 * n + (c.toNat - 48)) 0
    if n < UInt64.size then some n.toUInt64 else none

def Place.accepts : Place → String → Bool
  | text, _ => true
  | word64, s => (word64? s).isSome

/-- One more value, for the next place. -/
def Shape.addValue (shape : Shape) (g : Given) (value : String) : Except Halt Given :=
  match shape.places[g.values.length]? with
  | none => .error .wrong
  | some place =>
    if place.accepts value then .ok { g with values := g.values ++ [value] } else .error .wrong

/-- One more switch. -/
def Shape.addSwitch (shape : Shape) (g : Given) (name : String) : Except Halt Given :=
  if shape.switches.contains name && !g.switches.contains name then
    .ok { g with switches := g.switches ++ [name] }
  else .error .wrong

/-- One more option. -/
def OptionRule.add (o : OptionRule) (g : Given) (value : String) : Except Halt Given :=
  if !o.repeatable && (g.options.lookup o.long).isSome then .error .wrong
  else .ok { g with options := g.options ++ [(o.long, value)] }

/-! ### Arguments one by one -/

/-- An argument by its look. -/
inductive Look
  /-- A value. -/
  | value (s : String)
  /-- Two dashes: all that follows is values. -/
  | onlyValues
  /-- A name behind two dashes, and the value behind an equals sign. -/
  | long (name : String) (value : Option String)
  /-- A letter behind one dash, and what is behind it. -/
  | short (letter : Char) (rest : List Char)
  deriving DecidableEq, Repr

/-- A name and the value behind its first equals sign. -/
def cutAtEquals (s : List Char) : String × Option String :=
  let name := s.takeWhile (· ≠ '=')
  (String.ofList name, match s.drop name.length with
    | _ :: value => some (String.ofList value)
    | [] => none)

def lookOf (s : String) : Look :=
  match s.toList with
  | ['-', '-'] => .onlyValues
  | '-' :: '-' :: rest => let (name, value) := cutAtEquals rest; .long name value
  | '-' :: letter :: rest => .short letter rest
  | _ => .value s

/-- The value that follows the letter of an option in one argument. -/
def attached : List Char → Option String
  | [] => none
  | '=' :: value => some (String.ofList value)
  | value => some (String.ofList value)

/-- What an argument asks for: something is added, or an option waits for its value. -/
inductive Reading
  | added (g : Given)
  | waits (o : OptionRule)
  | onlyValues

/-- Reads the name of a switch or option. -/
def Shape.readLong (shape : Shape) (g : Given) (name : String) (value : Option String) :
    Except Halt Reading :=
  match shape.options.find? (·.long = name), value with
  | some o, some value => (o.add g value).map .added
  | some o, none => .ok (.waits o)
  | none, some _ => .error .wrong
  | none, none =>
    if name = "help" then .error .help else (shape.addSwitch g name).map .added

/-- Reads the letter of an option. -/
def Shape.readShort (shape : Shape) (g : Given) (letter : Char) (rest : List Char) :
    Except Halt Reading :=
  match shape.options.find? (·.short = letter), attached rest with
  | some o, some value => (o.add g value).map .added
  | some o, none => .ok (.waits o)
  | none, _ => if letter = 'h' then .error .help else .error .wrong

/-- Reads an argument. -/
def Shape.readOne (shape : Shape) (g : Given) (s : String) : Except Halt Reading :=
  match lookOf s with
  | .value s => (shape.addValue g s).map .added
  | .onlyValues => .ok .onlyValues
  | .long name value => shape.readLong g name value
  | .short letter rest => shape.readShort g letter rest

/-- Reads arguments all of which are values. -/
def Shape.readValues (shape : Shape) (g : Given) : List Bytes → Except Halt Given
  | [] => .ok g
  | arg :: rest =>
    match Text.Utf8.decode? arg with
    | none => .error .wrong
    | some s =>
      match shape.addValue g s with
      | .error h => .error h
      | .ok g => shape.readValues g rest

/-- Reads arguments, the first of which is the value of an option that waits for it, if one does. -/
def Shape.read (shape : Shape) (g : Given) (waiting : Option OptionRule) :
    List Bytes → Except Halt Given
  | [] => if waiting.isSome then .error .wrong else .ok g
  | arg :: rest =>
    match Text.Utf8.decode? arg with
    | none => .error .wrong
    | some s =>
      match waiting with
      | some o =>
        match lookOf s with
        | .value s =>
          match o.add g s with
          | .error h => .error h
          | .ok g => shape.read g none rest
        | _ => .error .wrong
      | none =>
        match shape.readOne g s with
        | .error h => .error h
        | .ok (.added g) => shape.read g none rest
        | .ok (.waits o) => shape.read g (some o) rest
        | .ok .onlyValues => shape.readValues g rest

/-! ### Commands -/

def Given.has (g : Given) (switch : String) : Bool := g.switches.contains switch

/-- The values of an option. -/
def Given.all (g : Given) (option : String) : List String :=
  (g.options.filter fun p ↦ p.1 = option).map Prod.snd

/-- A command: what it can be given, and the order it then gives, unless something is missing. -/
structure Rule where
  name : String
  shape : Shape := {}
  order : Given → Option Order

/-- A command that takes nothing. -/
def plain (name : String) (o : Order) : Rule where
  name := name
  order := fun _ ↦ some o

/-- A command about a recorded query. -/
def aboutCommand (name : String) (ask : ConnectionId → CommandId → Ask) : Rule where
  name := name
  shape := { places := [.text, .word64] }
  order := fun g ↦
    match g.values with
    | [connection, command] => (word64? command).map fun command ↦ .ask (ask connection command)
    | _ => none

/-- The commands. -/
def rules : List Rule :=
  [plain "status" (.ask .status),
    { name := "view"
      shape := { switches := ["json"] }
      order := fun g ↦ some (.ask (.view (g.has "json"))) },
    { name := "filter"
      shape := { places := [.text], switches := ["now"] }
      order := fun g ↦ some (.ask (.filter (g.values.head?.getD "") (g.has "now"))) },
    { name := "select"
      shape := { places := [.text] }
      order := fun g ↦ g.values.head?.map fun connection ↦ .ask (.select connection) },
    aboutCommand "toggle" .toggle,
    plain "expand-all" (.ask .expandAll),
    plain "clear" (.ask .clear),
    plain "connect" (.ask .connect),
    plain "disconnect" (.ask .disconnect),
    aboutCommand "execute" .execute,
    { name := "run"
      shape :=
        { places := [.text]
          options := [⟨"database", 'd', false⟩, ⟨"param", 'p', true⟩] }
      order := fun g ↦ g.values.head?.map fun query ↦
        .ask (.run ⟨(g.all "database").head?, query, g.all "param"⟩) },
    aboutCommand "copy" .copy,
    plain "send" .send]

/-- Reads the arguments of a command. -/
def Rule.read (r : Rule) (args : List Bytes) : CommandLine :=
  match r.shape.read {} none args with
  | .error .help => .help
  | .error .wrong => .wrong
  | .ok g =>
    match r.order g with
    | some o => .order o
    | none => .wrong

/-- Reads what help is asked for: all commands, or one of them. -/
def readHelp : List Bytes → CommandLine
  | [] => .help
  | [arg] =>
    match Text.Utf8.decode? arg with
    | some s => if s = "help" || rules.any fun r ↦ r.name = s then .help else .wrong
    | none => .wrong
  | _ => .wrong

/-- Reads the arguments of the program. -/
def read : List Bytes → CommandLine
  | [] => .wrong
  | arg :: rest =>
    match Text.Utf8.decode? arg with
    | none => .wrong
    | some s =>
      match rules.find? (·.name = s) with
      | some r => r.read rest
      | none =>
        if s = "help" then readHelp rest
        else
          match lookOf s with
          | .long "version" none => .version
          | .long "help" none => .help
          | .short 'V' _ => .version
          | .short 'h' _ => .help
          | _ => .wrong

end Arguments
end QueryWatch
