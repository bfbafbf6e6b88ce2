import QueryWatch.Store.Basic

/-!
The history as JSON.
-/

set_option autoImplicit false

namespace QueryWatch

open Json (nat optString)

def SessionId.toJson (k : SessionId) : Json :=
  .object [("connection_id", .string k.connection), ("generation", nat k.generation)]

def Session.toJson (s : Session) : Json :=
  .object
    [("connection_id", .string s.id.connection),
      ("first_seen_seq", nat s.firstSeen),
      ("generation", nat s.id.generation),
      ("last_seen_seq", nat s.lastSeen),
      ("query_count", nat s.queryCount),
      ("state", .string s.stage.name)]

def RecordedQuery.toJson (r : RecordedQuery) : Json :=
  .object
    [("command_id", nat r.query.command.toNat),
      ("connection_id", .string r.query.connection),
      ("database_name", optString r.query.database),
      ("duration_millis", r.resolution.elim .null fun x ↦ nat x.millis.toNat),
      ("error_message", optString (r.resolution.bind (·.message))),
      ("expanded", .bool r.expanded),
      ("generation", nat r.generation),
      ("is_executable", .bool r.query.executable),
      ("parameters", Json.strings r.query.parameters),
      ("query_text", .string r.query.text),
      ("received_seq", nat r.received),
      ("status", .string r.statusName)]

def StoreCounts.toJson (s : StoreCounts) : Json :=
  .object
    [("duplicate_issues", nat s.duplicateIssues),
      ("orphan_results", nat s.orphanResults),
      ("orphans_dropped", nat s.orphansDropped),
      ("orphans_evicted", nat s.orphansEvicted),
      ("orphans_reconciled", nat s.orphansReconciled),
      ("queries_issued", nat s.queriesIssued),
      ("results_applied", nat s.resultsApplied),
      ("session_reuses", nat s.sessionReuses)]

end QueryWatch
