import QueryWatch.Proofs.Dashboard.Run
import QueryWatch.Proofs.Store.Provenance
import QueryWatch.Store.Report

/-!
What is shown is well-formed. The events that messages bring are well-formed, so the store of a
dashboard that hears of events by messages only is (`wellFormed_run`); and a record is shown with a
duration exactly if it is not pending any more (`duration_toJson_ne_null_iff`), and with a message
only if there is one in its resolution (`error_message_toJson_iff`).
-/

set_option autoImplicit false

namespace QueryWatch

namespace RecordedQuery

theorem get?_status_toJson (r : RecordedQuery) :
    r.toJson.get? "status" = some (.string r.statusName) := rfl

theorem get?_duration_toJson (r : RecordedQuery) : r.toJson.get? "duration_millis" =
    some (r.resolution.elim .null fun x ↦ Json.nat x.millis.toNat) := by
  obtain ⟨query, generation, resolution, expanded, received⟩ := r
  cases resolution <;> rfl

theorem duration_toJson_ne_null_iff (r : RecordedQuery) :
    r.toJson.get? "duration_millis" ≠ some .null ↔
      r.toJson.get? "status" ≠ some (.string "pending") := by
  rw [get?_status_toJson, get?_duration_toJson, statusName]
  cases r.resolution with
  | none => simp
  | some x => cases hstatus : x.status <;> simp [Json.nat, hstatus, Verdict.name]

theorem error_message_toJson_iff (r : RecordedQuery) {message : String} :
    r.toJson.get? "error_message" = some (.string message) ↔
      ∃ x, r.resolution = some x ∧ x.message = some message := by
  have hmessage : r.toJson.get? "error_message" =
      some (Json.optString (r.resolution.bind (·.message))) := rfl
  rw [hmessage, ← Option.bind_eq_some_iff]
  cases r.resolution.bind (·.message) <;> simp [Json.optString]

end RecordedQuery

namespace Dashboard

/-- A dashboard that hears of events by messages only has a well-formed history. -/
theorem wellFormed_run (settings : DashboardSettings) {operations : List Operation}
    (hmessages : ∀ operation ∈ operations, ∀ e, operation ≠ .event e) :
    ((ofSettings settings).run operations).store.WellFormed := by
  obtain ⟨steps, -, hbrought, heq⟩ := (ofSettings settings).exists_run_store operations
  rw [heq]
  refine (Store.wellFormed_empty _).run (Store.coherent_empty _) steps fun e he ↦ ?_
  obtain ⟨operation, hmem, hbrings⟩ := hbrought e he
  cases operation with
  | event own => exact absurd rfl (hmessages _ hmem own)
  | text raw => exact Event.wellFormed_of_decodeText hbrings
  | value j => exact Event.wellFormed_of_decode hbrings
  | _ => exact hbrings.elim

/-- In every dashboard that a run with messages, but without events of other origin, reaches,
sessions and records are of named connections; a record has a text and, if any, a database that says
something; it has a duration exactly if it is not pending; and it has a message only if it is an
error, one that says something. -/
theorem shown_run (settings : DashboardSettings) (operations : List Operation)
    (hmessages : ∀ operation ∈ operations, ∀ e, operation ≠ .event e) :
    let d := (ofSettings settings).run operations
    (∀ x ∈ d.store.sessions, IsName x.id.connection) ∧
      ∀ key r, d.store.record? key = some r →
        IsName key.session.connection ∧ IsName r.query.connection ∧
        Text.isBlankText r.query.text = false ∧
        (∀ name, r.query.database = some name → Text.isBlankText name = false) ∧
        (r.toJson.get? "duration_millis" ≠ some .null ↔
          r.toJson.get? "status" ≠ some (.string "pending")) ∧
        ∀ message, r.toJson.get? "error_message" = some (.string message) →
          r.toJson.get? "status" = some (.string "error") ∧ Text.isBlankText message = false := by
  intro d
  have hwell : d.store.WellFormed := wellFormed_run settings hmessages
  have hs : d.store.Coherent := (coherent_chronological_run settings operations).1
  refine ⟨hwell.sessions, fun key r hr ↦ ?_⟩
  obtain ⟨hquery, hmessage⟩ := hwell.records key r hr
  have hkey : r.key = key := hs.keyed key r hr
  refine ⟨hkey ▸ hquery.connection, hquery.connection, hquery.text, hquery.database,
    r.duration_toJson_ne_null_iff, fun message hshown ↦ ?_⟩
  obtain ⟨x, hx, hm⟩ := r.error_message_toJson_iff.mp hshown
  obtain ⟨hstatus, hblank⟩ := hmessage x hx message hm
  refine ⟨?_, hblank⟩
  rw [RecordedQuery.get?_status_toJson, RecordedQuery.statusName, hx]
  dsimp only
  rw [hstatus]
  rfl

/-- A failure that came before its query, with blanks around the connection, and the query with a
blank database. -/
theorem shown_run_reconciled :
    let early := Json.object [("command_id", Json.nat 3), ("connection_id", .string " 1 "),
      ("duration_millis", Json.nat 5), ("error_message", .string "boom"),
      ("kind", .string "query_result"), ("status", .string "error")]
    let issue := Json.object [("CmdId", Json.nat 3), ("ConnId", Json.nat 1),
      ("Database", .string "\t"), ("Query", .string "select 1")]
    let operations : List Operation := [.value early, .value issue]
    let d := (ofSettings {}).run operations
    (∀ operation ∈ operations, ∀ e, operation ≠ .event e) ∧
      ∃ r, d.store.record? ⟨⟨"1", 0⟩, 3⟩ = some r ∧
        r.resolution = some ⟨.error, some "boom", 5⟩ ∧ r.query.database = none ∧
        IsName r.query.connection ∧ Text.isBlankText "boom" = false := by
  intro early issue operations d
  have hmessages : ∀ operation ∈ operations, ∀ e, operation ≠ .event e := by simp [operations]
  obtain ⟨-, hrecords⟩ := shown_run {} operations hmessages
  have hr : d.store.record? ⟨⟨"1", 0⟩, 3⟩ =
      some ⟨⟨"1", 3, none, "select 1", [], false⟩, 0, some ⟨.error, some "boom", 5⟩, true, 2⟩ := by
    decide +kernel
  obtain ⟨-, hname, -, -, -, hmessage⟩ := hrecords _ _ hr
  exact ⟨hmessages, _, hr, rfl, rfl, hname, (hmessage "boom" rfl).2⟩

end Dashboard
end QueryWatch
