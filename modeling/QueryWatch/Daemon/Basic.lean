import QueryWatch.Daemon.Framing
import QueryWatch.Dashboard.View
import QueryWatch.Protocol.Response
import QueryWatch.Time.Instant
import QueryWatch.Version

/-!
The daemon: the dashboard behind requests. Each request is answered by itself; one that is refused
changes nothing that was observed.
-/

set_option autoImplicit false

namespace QueryWatch

open Text (Bytes)
open Json (nat)

structure Daemon where
  dashboard : Dashboard
  startedAt : Timestamp
  processId : Nat

/-- What a request leads to: the answer, a switch for the feed, and the daemon after it. -/
structure Reply where
  response : Response
  switch : Option FeedSwitch := none
  daemon : Daemon

namespace Daemon

/-- The daemon with another dashboard. -/
def setDashboard (d : Daemon) (dashboard : Dashboard) : Daemon := { d with dashboard }

/-- A request is carried out, with the dashboard after it. -/
def done (d : Daemon) (id : Option String) (data : Json) (dashboard : Dashboard) : Reply :=
  { response := .success id data, daemon := d.setDashboard dashboard }

/-- A request is refused. -/
def refuse (d : Daemon) (id : Option String) (error : ErrorReport) : Reply :=
  { response := .failure id error, daemon := d }

/-- How the daemon is. -/
def health (d : Daemon) : Json :=
  .object
    [("connected", .bool d.dashboard.connected),
      ("pid", nat d.processId),
      ("protocol_version", nat protocolVersion),
      ("started_at", .string (d.startedAt.textIn "+00:00")),
      ("status", .string "ok"),
      ("total_queries", nat d.dashboard.store.recordCount),
      ("version", .string version)]

def answerEvent (d : Daemon) (id : Option String) (params : Option Json) : Reply :=
  match params with
  | none => d.refuse id ParamsError.eventMissing.report
  | some j =>
    match d.dashboard.receiveValue j with
    | (.ok outcome, dashboard) =>
      d.done id (.object [("accepted", .bool true), ("outcome", .string outcome.name)]) dashboard
    | (.error e, dashboard) =>
      { response := .failure id e.report, daemon := d.setDashboard dashboard }

def answerFilter (d : Daemon) (id : Option String) (p : FilterChange) (now : Instant) : Reply :=
  let dashboard := d.dashboard.filterChanged p.text now
  let dashboard := if p.immediate then dashboard.commitFilter.2 else dashboard
  d.done id dashboard.filterView.toJson dashboard

def answerSelect (d : Daemon) (id : Option String) (p : SessionChoice) : Reply :=
  d.done id (.object [("active_connection_id", .string p.connection)])
    (d.dashboard.select p.connection)

def answerToggle (d : Daemon) (id : Option String) (p : CommandAddress) : Reply :=
  match d.dashboard.toggle p.connection p.command with
  | (some expanded, dashboard) => d.done id (.object [("expanded", .bool expanded)]) dashboard
  | (none, dashboard) =>
    { response := .failure id
        ⟨"query_not_found",
          "no query " ++ toString p.command.toNat ++ " on connection " ++ p.connection⟩
      daemon := d.setDashboard dashboard }

/-- The feed is asked to do something. -/
def answerFeed (d : Daemon) (id : Option String) (word : String)
    (asked : Except Failure (Option FeedSwitch)) : Reply :=
  match asked with
  | .error failure => d.refuse id failure.report
  | .ok switch =>
    { response := .success id (.object [(word, .bool true)]), switch, daemon := d }

def answerExecute (d : Daemon) (id : Option String) (p : ExecutionTarget) (now : Timestamp) :
    Reply :=
  match p with
  | .recorded p =>
    match d.dashboard.executeRecorded p.connection p.command now with
    | .error failure => d.refuse id failure.report
    | .ok (execution, dashboard) => d.done id execution.toJson dashboard
  | .adHoc request =>
    let (execution, dashboard) := d.dashboard.execute request now
    d.done id execution.toJson dashboard

def answerQuery (d : Daemon) (id : Option String) (p : CommandAddress) : Reply :=
  match d.dashboard.queryText? p.connection p.command with
  | none => d.refuse id (Failure.queryNotFound p.connection p.command).report
  | some text =>
    d.done id
      (.object [("command_id", nat p.command.toNat), ("connection_id", .string p.connection),
        ("query_text", .string text)])
      d.dashboard

/-- Goes on with parameters, or refuses the request. -/
def withParams {α : Type} (d : Daemon) (id : Option String) (params : Except ParamsError α)
    (go : α → Reply) : Reply :=
  match params with
  | .error e => d.refuse id e.report
  | .ok p => go p

/-- Carries out a request of the right version. -/
def perform (d : Daemon) (r : Request) (now : Moment) : Reply :=
  let id := r.id
  match r.method with
  | .getHealth => d.done id d.health d.dashboard
  | .event => d.answerEvent id r.params
  | .getView => d.done id d.dashboard.view.toJson d.dashboard
  | .setFilter =>
    d.withParams id (Params.parse Params.readFilter .setFilter r.params) fun p ↦
      d.answerFilter id p now.instant
  | .selectSession =>
    d.withParams id (Params.parse Params.readSession .selectSession r.params) fun p ↦
      d.answerSelect id p
  | .toggleExpand =>
    d.withParams id (Params.parse Params.readCommand .toggleExpand r.params) fun p ↦
      d.answerToggle id p
  | .toggleExpandAll =>
    let (expanded, dashboard) := d.dashboard.toggleAll
    d.done id (.object [("expand_all", .bool expanded)]) dashboard
  | .clear => d.done id (.object [("cleared", .bool true)]) d.dashboard.clear
  | .connect => d.answerFeed id "connecting" d.dashboard.switchFeedOn
  | .disconnect => d.answerFeed id "disconnecting" d.dashboard.switchFeedOff
  | .execute =>
    d.withParams id (Params.parseExecute r.params) fun p ↦ d.answerExecute id p now.time
  | .getQuery =>
    d.withParams id (Params.parse Params.readCommand .getQuery r.params) fun p ↦
      d.answerQuery id p

/-- Answers a request. -/
def answer (d : Daemon) (r : Request) (now : Moment) : Reply :=
  if r.version = protocolVersion then d.perform r now
  else d.refuse r.id ⟨"protocol_mismatch", "unsupported protocol version"⟩

/-- Answers a connection that brings these pieces. -/
def serve (d : Daemon) (pieces : List Bytes) (now : Moment) : Reply :=
  match Framing.requestOf pieces with
  | .error e => d.refuse none e.report
  | .ok r => d.answer r now

end Daemon
end QueryWatch
