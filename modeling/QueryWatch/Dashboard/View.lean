import QueryWatch.Dashboard.Basic
import QueryWatch.Store.Report

/-!
What the dashboard shows: all sessions, and the queries of the connection in focus that the filter
accepts.
-/

set_option autoImplicit false

namespace QueryWatch

open Json (nat optString)

/-- A session as shown: whether it is in focus, and how many of its queries the filter accepts. -/
structure SessionView where
  session : Session
  isSelected : Bool
  visibleQueries : Nat
  deriving DecidableEq, Repr

/-- Counts of what happened, to the history and otherwise. -/
structure DashboardCounts where
  store : StoreCounts
  orphansBuffered : Nat
  protocolErrors : Nat
  unknownToggles : Nat
  filterCommits : Nat
  deriving DecidableEq, Repr

structure View where
  connected : Bool
  active : Option ConnectionId
  sessions : List SessionView
  queries : List RecordedQuery
  filter : FilterView
  recordCount : Nat
  expandAll : Bool
  lastExecution : Option Execution
  counts : DashboardCounts
  deriving DecidableEq, Repr

namespace Dashboard

/-- How many records the group of a session has. -/
def visibleIn (groups : List FilteredSession) (id : SessionId) : Nat :=
  match groups.find? (·.session = id) with
  | some group => group.records.length
  | none => 0

def counts (d : Dashboard) : DashboardCounts where
  store := d.store.counts
  orphansBuffered := d.store.waitingCount
  protocolErrors := d.protocolErrors
  unknownToggles := d.unknownToggles
  filterCommits := d.filter.commits

def view (d : Dashboard) : View :=
  let groups := d.store.groups d.filter.applied
  { connected := d.connected
    active := d.focus.active
    sessions := d.store.sessions.map fun session ↦
      { session
        isSelected := d.focus.isOn session.id.connection
        visibleQueries := visibleIn groups session.id }
    queries := match d.focus.active with
      | none => []
      | some active => (groups.filter (·.session.connection = active)).flatMap (·.records)
    filter := d.filterView
    recordCount := d.store.recordCount
    expandAll := d.expandAll
    lastExecution := d.lastExecution
    counts := d.counts }

end Dashboard

/-! ### As JSON -/

def FilterView.toJson (f : FilterView) : Json :=
  .object [("applied", .string f.applied), ("filtering", .bool f.filtering),
    ("pending", optString f.pending)]

def SessionView.toJson (s : SessionView) : Json :=
  .object
    [("connection_id", .string s.session.id.connection),
      ("first_seen_seq", nat s.session.firstSeen),
      ("generation", nat s.session.id.generation),
      ("is_live", .bool s.session.isLive),
      ("is_selected", .bool s.isSelected),
      ("last_seen_seq", nat s.session.lastSeen),
      ("query_count", nat s.session.queryCount),
      ("state", .string s.session.stage.name),
      ("visible_queries", nat s.visibleQueries)]

def DashboardCounts.toJson (s : DashboardCounts) : Json :=
  .object
    [("duplicate_issues", nat s.store.duplicateIssues),
      ("filter_recomputations", nat s.filterCommits),
      ("orphan_results", nat s.store.orphanResults),
      ("orphans_buffered", nat s.orphansBuffered),
      ("orphans_dropped", nat s.store.orphansDropped),
      ("orphans_evicted", nat s.store.orphansEvicted),
      ("orphans_reconciled", nat s.store.orphansReconciled),
      ("protocol_errors", nat s.protocolErrors),
      ("queries_issued", nat s.store.queriesIssued),
      ("results_applied", nat s.store.resultsApplied),
      ("session_reuses", nat s.store.sessionReuses),
      ("unknown_toggles", nat s.unknownToggles)]

def View.toJson (v : View) : Json :=
  .object
    [("active_connection_id", optString v.active),
      ("connected", .bool v.connected),
      ("expand_all", .bool v.expandAll),
      ("filter", v.filter.toJson),
      ("last_execution", v.lastExecution.elim .null (·.toJson)),
      ("queries", .array (v.queries.map (·.toJson))),
      ("sessions", .array (v.sessions.map (·.toJson))),
      ("stats", v.counts.toJson),
      ("total_queries", nat v.recordCount)]

end QueryWatch
