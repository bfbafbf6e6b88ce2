import Mathlib.Data.List.Induction
import QueryWatch.Store.Basic

/-!
What a list of events says of a command, wherever its events stand in the list: the query that is
issued first (`firstIssue?`) and the result that comes last (`lastResult?`), and of a connection the
commands that are issued on it, each once, in the order in which they come first (`issuedCommands`).
Of all commands together, `latestResults` has the last result of each, in the order of arrival.
-/

set_option autoImplicit false

namespace QueryWatch

/-- The query that an event issues under a command. -/
def Event.issue? (e : Event) (connection : ConnectionId) (command : CommandId) : Option Query :=
  match e with
  | issued q => if q.connection = connection ∧ q.command = command then some q else none
  | _ => none

/-- The result that an event brings for a command. -/
def Event.result? (e : Event) (connection : ConnectionId) (command : CommandId) :
    Option QueryResult :=
  match e with
  | result r => if r.isOf connection command then some r else none
  | _ => none

/-- The command under which an event issues a query on a connection. -/
def Event.issuedOn? (e : Event) (connection : ConnectionId) : Option CommandId :=
  match e with
  | issued q => if q.connection = connection then some q.command else none
  | _ => none

/-- The query that is issued first under a command. -/
def firstIssue? (events : List Event) (connection : ConnectionId) (command : CommandId) :
    Option Query :=
  events.findSome? (·.issue? connection command)

/-- The result of a command that comes last. -/
def lastResult? (events : List Event) (connection : ConnectionId) (command : CommandId) :
    Option QueryResult :=
  events.reverse.findSome? (·.result? connection command)

/-- The last result of each command, in the order in which these came. -/
def latestResults : List Event → List QueryResult
  | [] => []
  | .result r :: rest =>
    if (lastResult? rest r.connection r.command).isSome then latestResults rest
    else r :: latestResults rest
  | .session _ _ :: rest => latestResults rest
  | .issued _ :: rest => latestResults rest

/-- The commands that are issued on a connection, in the order in which they are issued first. -/
def issuedCommands (events : List Event) (connection : ConnectionId) : List CommandId :=
  (events.filterMap (·.issuedOn? connection)).eraseDups

section Lists

variable (events : List Event) (e : Event) (connection : ConnectionId) (command : CommandId)

theorem firstIssue?_concat : firstIssue? (events ++ [e]) connection command =
    (firstIssue? events connection command).or (e.issue? connection command) := by
  simp [firstIssue?, List.findSome?_append]

theorem lastResult?_concat : lastResult? (events ++ [e]) connection command =
    (e.result? connection command).or (lastResult? events connection command) := by
  simp only [lastResult?, List.reverse_append, List.reverse_singleton, List.singleton_append,
    List.findSome?_cons]
  cases e.result? connection command <;> rfl

theorem lastResult?_concat_result (result : QueryResult) :
    lastResult? (events ++ [.result result]) connection command =
      if result.isOf connection command then some result
      else lastResult? events connection command := by
  rw [lastResult?_concat, Event.result?]
  split <;> rfl

theorem firstIssue?_concat_result (result : QueryResult) :
    firstIssue? (events ++ [.result result]) connection command =
      firstIssue? events connection command := by
  rw [firstIssue?_concat]
  exact Option.or_none

theorem lastResult?_concat_issued (query : Query) :
    lastResult? (events ++ [.issued query]) connection command =
      lastResult? events connection command := by
  rw [lastResult?_concat]
  exact Option.none_or

theorem issuedCommands_concat_of_none (hnone : e.issuedOn? connection = none) :
    issuedCommands (events ++ [e]) connection = issuedCommands events connection := by
  have hlast : [e].filterMap (·.issuedOn? connection) = [] := by simp [hnone]
  unfold issuedCommands
  rw [List.filterMap_append, hlast, List.append_nil]

variable {e command} in
/-- A command counts where it is issued first. -/
theorem issuedCommands_concat_of_some (hsome : e.issuedOn? connection = some command) :
    issuedCommands (events ++ [e]) connection =
      if command ∈ issuedCommands events connection then issuedCommands events connection
      else issuedCommands events connection ++ [command] := by
  have hlast : [e].filterMap (·.issuedOn? connection) = [command] := by simp [hsome]
  unfold issuedCommands
  rw [List.filterMap_append, hlast, List.eraseDups_append]
  generalize events.filterMap (·.issuedOn? connection) = commands
  by_cases hmem : command ∈ commands
  · simp [List.removeAll, hmem]
  · simp [List.removeAll, hmem, List.eraseDups_cons]

end Lists

/-! ### The last result of each command -/

/-- An event that is no result leaves the last results as they are. -/
theorem latestResults_concat_of_not_result (events : List Event) {e : Event}
    (hother : ∀ result, e ≠ .result result) :
    latestResults (events ++ [e]) = latestResults events := by
  induction events with
  | nil =>
    cases e with
    | result result => exact absurd rfl (hother result)
    | session connection stage => rfl
    | issued query => rfl
  | cons first rest ih =>
    cases first with
    | session connection stage => exact ih
    | issued query => exact ih
    | result r =>
      have hnone : e.result? r.connection r.command = none := by
        cases e with
        | result result => exact absurd rfl (hother result)
        | session connection stage => rfl
        | issued query => rfl
      rw [List.cons_append, latestResults, latestResults, ih, lastResult?_concat, hnone,
        Option.none_or]

/-- A result takes the place of the last one of its command, behind all others. -/
theorem latestResults_concat_result (events : List Event) (result : QueryResult) :
    latestResults (events ++ [.result result]) =
      ((latestResults events).filter fun r ↦ !r.isOf result.connection result.command) ++
        [result] := by
  induction events with
  | nil => rfl
  | cons first rest ih =>
    cases first with
    | session connection stage => exact ih
    | issued query => exact ih
    | result r =>
      have hcomm : result.isOf r.connection r.command =
          r.isOf result.connection result.command := by
        simp only [QueryResult.isOf, eq_comm]
      rw [List.cons_append, latestResults, latestResults, ih, lastResult?_concat_result, hcomm]
      by_cases hsame : r.isOf result.connection result.command = true
      · rw [if_pos hsame, Option.isSome_some, if_pos rfl]
        split
        · rfl
        · rw [List.filter_cons_of_neg (by simp [hsame])]
      · rw [if_neg hsame]
        split
        · rfl
        · rw [List.filter_cons_of_pos (by simp [hsame]), List.cons_append]

/-- What is among the last results is the last result of its command. -/
theorem lastResult?_of_mem_latestResults {events : List Event} {r : QueryResult}
    (hr : r ∈ latestResults events) : lastResult? events r.connection r.command = some r := by
  induction events using List.reverseRecOn with
  | nil => cases hr
  | append_singleton events e ih =>
    cases e with
    | result result =>
      rw [latestResults_concat_result, List.mem_append, List.mem_filter, Bool.not_eq_true'] at hr
      rw [lastResult?_concat_result]
      rcases hr with ⟨hold, hother⟩ | hnew
      · have hcomm : result.isOf r.connection r.command = false := by
          rw [← hother]
          simp only [QueryResult.isOf, eq_comm]
        rw [hcomm, if_neg Bool.false_ne_true, ih hold]
      · rw [List.mem_singleton.mp hnew, if_pos (by simp [QueryResult.isOf])]
    | session connection stage =>
      rw [latestResults_concat_of_not_result events (by intro _ heq; cases heq)] at hr
      rw [lastResult?_concat, ih hr]
      rfl
    | issued query =>
      rw [latestResults_concat_of_not_result events (by intro _ heq; cases heq)] at hr
      rw [lastResult?_concat, ih hr]
      rfl

end QueryWatch
