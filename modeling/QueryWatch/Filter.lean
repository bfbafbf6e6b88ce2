import QueryWatch.Store.Basic
import QueryWatch.Text.LowerCase
import QueryWatch.Time.Instant

/-!
Filters over query texts, and how a filter text that is being typed becomes the one that counts: it
is committed once no other text has come for a while, or at once when asked.
-/

set_option autoImplicit false

namespace QueryWatch

/-- A text that queries are searched for, in any case. -/
structure Filter where
  text : String := ""
  deriving DecidableEq, Repr

namespace Filter

def folded (f : Filter) : List Char := Text.lowerCase f.text.toList

def isEmpty (f : Filter) : Bool := f.folded.isEmpty

/-- Whether a query text has the filter's text in it. -/
def accepts (f : Filter) (query : String) : Bool :=
  f.isEmpty || Text.occursIn f.folded (Text.lowerCase query.toList)

def accepted (f : Filter) (r : RecordedQuery) : Bool := f.accepts r.query.text

end Filter

/-- The records of a session that a filter accepts. -/
structure FilteredSession where
  session : SessionId
  records : List RecordedQuery
  deriving DecidableEq, Repr

namespace Store

/-- The records of a session that a filter accepts, in order. -/
def filtered (s : Store) (id : SessionId) (f : Filter) : List RecordedQuery :=
  (s.recordsOf id).filter f.accepted

/-- The groups of a filter, one for each session in order. Under a filter that is not empty a
session without accepted records has none. -/
def groups (s : Store) (f : Filter) : List FilteredSession :=
  s.sessions.filterMap fun session ↦
    let records := s.filtered session.id f
    if records.isEmpty && !f.isEmpty then none else some ⟨session.id, records⟩

end Store

/-- A filter text that is to be committed, and when. -/
structure FilterDraft where
  text : String
  deadline : Instant
  deriving DecidableEq, Repr

/-- The filter that counts and the text that is to replace it, how long a text has to wait, and how
often one was committed. -/
structure FilterInput where
  delay : Nat
  applied : Filter := {}
  pending : Option FilterDraft := none
  commits : Nat := 0
  deriving DecidableEq, Repr

namespace FilterInput

/-- The text has changed. -/
def changed (f : FilterInput) (text : String) (now : Instant) : FilterInput :=
  { f with pending := some ⟨text, now + f.delay⟩ }

/-- Commits the text that is pending and says whether there was one. -/
def commit (f : FilterInput) : Bool × FilterInput :=
  match f.pending with
  | none => (false, f)
  | some p => (true, { f with applied := ⟨p.text⟩, pending := none, commits := f.commits + 1 })

/-- Commits the text that is pending if its time has come. -/
def commitDue (f : FilterInput) (now : Instant) : Bool × FilterInput :=
  match f.pending with
  | none => (false, f)
  | some p => if p.deadline ≤ now then f.commit else (false, f)

def deadline? (f : FilterInput) : Option Instant := f.pending.map (·.deadline)

def isWaiting (f : FilterInput) : Bool := f.pending.isSome

end FilterInput
end QueryWatch
