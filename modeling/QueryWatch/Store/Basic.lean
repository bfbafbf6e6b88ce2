import QueryWatch.Failure
import Std.Data.ExtTreeMap

/-!
The history of what was observed: sessions, the queries issued on them, and results that came before
their query. A connection's name can be used again after its session has finished, so a session is
named by its connection and a generation, and a query by its session and its command.

Sessions are kept in the order in which they were first seen. One index finds the place of a session
in that order by its id, another the place of the newest session of a connection; records are kept
under their keys, and each session lists its commands in the order in which they were issued.
-/

set_option autoImplicit false

namespace QueryWatch

/-- What names a session: the connection, and how often its name had been used before. -/
structure SessionId where
  connection : ConnectionId
  generation : Nat
  deriving DecidableEq, Repr

/-- What names a query: its session and its command. -/
structure RecordKey where
  session : SessionId
  command : CommandId
  deriving DecidableEq, Repr

/-! ### The order of ids and keys -/

/-- Ids are ordered by connection, those of one connection by generation. -/
instance : Ord SessionId := ⟨compareLex (compareOn (·.connection)) (compareOn (·.generation))⟩

instance : Std.TransOrd SessionId := inferInstanceAs (Std.TransCmp (compareLex _ _))

instance : Std.LawfulEqOrd SessionId where
  eq_of_compare {a b} h := by
    obtain ⟨hconnection, hgeneration⟩ := compareLex_eq_eq.mp h
    cases a
    cases b
    simp_all [compareOn]

/-- Keys are ordered by session, those of one session by command. -/
instance : Ord RecordKey := ⟨compareLex (compareOn (·.session)) (compareOn (·.command))⟩

instance : Std.TransOrd RecordKey := inferInstanceAs (Std.TransCmp (compareLex _ _))

instance : Std.LawfulEqOrd RecordKey where
  eq_of_compare {a b} h := by
    obtain ⟨hsession, hcommand⟩ := compareLex_eq_eq.mp h
    cases a
    cases b
    simp_all [compareOn]

/-! ### What is kept -/

/-- A session with the commands issued on it, in order, and their number. The other numbers are those
of the events that opened it and that last concerned it. -/
structure Session where
  id : SessionId
  stage : SessionStage
  commands : List CommandId
  queryCount : Nat
  firstSeen : Nat
  lastSeen : Nat
  deriving DecidableEq, Repr

/-- Whether a session is under way. -/
def Session.isLive (s : Session) : Bool := s.stage = .started

/-- How a query ended. -/
structure Resolution where
  status : Verdict
  message : Option String
  millis : UInt64
  deriving DecidableEq, Repr

/-- The resolution a result brings; only an error keeps its message. -/
def QueryResult.resolution (r : QueryResult) : Resolution where
  status := r.status
  message := match r.status with
    | .error => r.message
    | .ok => none
  millis := r.millis

/-- A query as recorded: how it was issued, in which generation of its connection, how it ended if
it has, whether it is shown in full, and the number of the event that issued it. -/
structure RecordedQuery where
  query : Query
  generation : Nat
  resolution : Option Resolution
  expanded : Bool
  received : Nat
  deriving DecidableEq, Repr

namespace RecordedQuery

def session (r : RecordedQuery) : SessionId := ⟨r.query.connection, r.generation⟩

def key (r : RecordedQuery) : RecordKey := ⟨r.session, r.query.command⟩

def isPending (r : RecordedQuery) : Bool := r.resolution.isNone

/-- The word for how far a query has come. -/
def statusName (r : RecordedQuery) : String :=
  match r.resolution with
  | none => "pending"
  | some resolution => resolution.status.name

end RecordedQuery

/-- Whether a result is of a command. -/
def QueryResult.isOf (r : QueryResult) (connection : ConnectionId) (command : CommandId) : Bool :=
  r.command = command && r.connection = connection

/-- Counts of what happened. -/
structure StoreCounts where
  queriesIssued : Nat := 0
  duplicateIssues : Nat := 0
  resultsApplied : Nat := 0
  orphanResults : Nat := 0
  orphansReconciled : Nat := 0
  orphansEvicted : Nat := 0
  orphansDropped : Nat := 0
  sessionReuses : Nat := 0
  deriving DecidableEq, Repr

/-- Whether new records are shown in full, and how many results may wait for their query. -/
structure StoreSettings where
  expandByDefault : Bool := true
  orphanCapacity : Nat := 256
  deriving DecidableEq, Repr

/-- The history. `placeOf` and `newestPlaceOf` say where in the list of sessions a session and the
newest session of a connection stand. Orphans are results that wait for their query, the longest
waiting one first; `lastNumber` is the number of the latest event. -/
structure Store where
  settings : StoreSettings := {}
  sessions : List Session := []
  placeOf : Std.ExtTreeMap SessionId Nat := ∅
  newestPlaceOf : Std.ExtTreeMap ConnectionId Nat := ∅
  records : Std.ExtTreeMap RecordKey RecordedQuery := ∅
  orphans : List QueryResult := []
  lastNumber : Nat := 0
  counts : StoreCounts := {}
  deriving DecidableEq

namespace Store

/-- A store in which nothing happened yet. -/
def empty (settings : StoreSettings) : Store := { settings }

def session? (s : Store) (id : SessionId) : Option Session :=
  s.placeOf[id]?.bind fun place ↦ s.sessions[place]?

/-- The sessions of a connection, oldest first. -/
def sessionsOf (s : Store) (connection : ConnectionId) : List Session :=
  s.sessions.filter (·.id.connection = connection)

/-- The newest session of a connection, with its place. -/
def newestPlaced? (s : Store) (connection : ConnectionId) : Option (Nat × Session) :=
  s.newestPlaceOf[connection]?.bind fun place ↦ s.sessions[place]?.map (place, ·)

/-- The newest session of a connection. -/
def newestSession? (s : Store) (connection : ConnectionId) : Option Session :=
  (s.newestPlaced? connection).map (·.2)

def record? (s : Store) (key : RecordKey) : Option RecordedQuery := s.records[key]?

/-- The key of the newest record of a command, which is searched for from the newest generation of
its connection downwards. -/
def newestKey? (s : Store) (connection : ConnectionId) (command : CommandId) : Option RecordKey :=
  (s.newestSession? connection).bind fun newest ↦
    ((List.range (newest.id.generation + 1)).reverse.map fun generation ↦
      ⟨⟨connection, generation⟩, command⟩).find? (· ∈ s.records)

/-- The newest record of a command. -/
def newestRecord? (s : Store) (connection : ConnectionId) (command : CommandId) :
    Option RecordedQuery :=
  (s.newestKey? connection command).bind s.record?

/-- The records of a session, in the order of its commands. -/
def recordsOf (s : Store) (id : SessionId) : List RecordedQuery :=
  match s.session? id with
  | none => []
  | some session => session.commands.filterMap fun command ↦ s.record? ⟨id, command⟩

def recordCount (s : Store) : Nat := s.records.size

def waitingCount (s : Store) : Nat := s.orphans.length

def isEmpty (s : Store) : Bool := s.sessions.isEmpty && s.records.isEmpty

end Store
end QueryWatch
