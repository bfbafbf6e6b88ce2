import QueryWatch.Proofs.Dashboard.Run
import QueryWatch.Proofs.Store.Generations

/-!
What people do to a recorded query, named by its connection and command. The name can stand for
several records, one in each generation of the connection. Looking at the text, showing the query in
full and executing it again all go by the newest record: if there is none they fail, and change
nothing but a count (`toggle_of_newestRecord?_eq_none`, `executeRecordedBy_of_newestRecord?_eq_none`),
and else they act on it alone (`toggle_of_newestRecord?`, `executeRecordedBy_of_executable`).
`addressed_run` says of every dashboard that a run reaches which record this is: that of the latest
generation, which is also the one that was received last.
-/

set_option autoImplicit false

namespace QueryWatch

namespace Store

variable {s : Store} {connection : ConnectionId} {command : CommandId} {record : RecordedQuery}

theorem toggle_of_newestRecord?_eq_none (hnone : s.newestRecord? connection command = none) :
    s.toggle connection command = .error (.queryNotFound connection command) := by
  unfold newestRecord? at hnone
  unfold toggle
  cases hkey : s.newestKey? connection command with
  | none => rfl
  | some key =>
    rw [hkey, Option.bind_some] at hnone
    simp only [hnone]

/-- Changing a record that is there is keeping the changed one in its place. -/
theorem updateRecord_eq {key : RecordKey} (hrecord : s.record? key = some record)
    (f : RecordedQuery → RecordedQuery) :
    s.updateRecord key f = { s with records := s.records.insert key (f record) } := by
  have hrecords : s.records.modify key f = s.records.insert key (f record) := by
    apply Std.ExtTreeMap.ext_getElem?
    intro other
    rw [Std.ExtTreeMap.getElem?_modify, Std.ExtTreeMap.getElem?_insert]
    split
    next hother =>
      rw [Std.compare_eq_iff_eq] at hother
      subst hother
      exact congrArg (Option.map f) hrecord
    next => rfl
  rw [updateRecord, hrecords]

/-- Of the newest record of a command it is changed whether it is shown in full, and nothing else. -/
theorem Coherent.toggle_of_newestRecord? (hs : s.Coherent)
    (hrecord : s.newestRecord? connection command = some record) :
    s.toggle connection command = .ok (!record.expanded,
      { s with records :=
          s.records.insert record.key { record with expanded := !record.expanded } }) := by
  obtain ⟨key, hkey, hfound⟩ := Option.bind_eq_some_iff.mp hrecord
  have hkeyed : record.key = key := hs.keyed key record hfound
  simp only [toggle, hkey, hfound, updateRecord_eq hfound, hkeyed]

end Store

namespace Dashboard

variable {d : Dashboard} {connection : ConnectionId} {command : CommandId} {record : RecordedQuery}

/-! ### Showing in full -/

theorem toggle_of_newestRecord?_eq_none
    (hnone : d.store.newestRecord? connection command = none) :
    d.toggle connection command =
      (none, { d with unknownToggles := d.unknownToggles + 1 }) := by
  simp only [toggle, Store.toggle_of_newestRecord?_eq_none hnone]

theorem toggle_of_newestRecord? (hs : d.store.Coherent)
    (hrecord : d.store.newestRecord? connection command = some record) :
    d.toggle connection command = (some !record.expanded,
      { d with store.records :=
          d.store.records.insert record.key { record with expanded := !record.expanded } }) := by
  simp only [toggle, hs.toggle_of_newestRecord? hrecord]

/-! ### Executing again -/

theorem executeRecorded_of_newestRecord?_eq_none
    (hnone : d.store.newestRecord? connection command = none) (now : Timestamp) :
    d.executeRecorded connection command now = .error (.queryNotFound connection command) := by
  rw [executeRecorded, executeRecordedBy_of_newestRecord?_eq_none hnone]
  rfl

theorem executeRecorded_of_executable_eq_false
    (hrecord : d.store.newestRecord? connection command = some record)
    (hnot : record.query.executable = false) (now : Timestamp) :
    d.executeRecorded connection command now = .error (.notExecutable connection command) := by
  rw [executeRecorded, executeRecordedBy_of_executable_eq_false hrecord hnot]
  rfl

theorem executeRecorded_of_executable
    (hrecord : d.store.newestRecord? connection command = some record)
    (hexecutable : record.query.executable = true) (now : Timestamp) :
    d.executeRecorded connection command now = .ok (d.execute record.query.request now) := by
  rw [executeRecorded, executeRecordedBy_of_executable hrecord hexecutable]
  rfl

/-- In the history of a dashboard that a run reaches, later generations have later records. -/
theorem successive_run (settings : DashboardSettings) (operations : List Operation) :
    ((ofSettings settings).run operations).store.Successive := by
  obtain ⟨steps, -, -, hsteps⟩ := (ofSettings settings).exists_run_store operations
  rw [hsteps]
  exact Store.successive_run _ steps

end Dashboard
end QueryWatch
