import Mathlib.Data.List.Induction
import QueryWatch.Proofs.Store.EventLists
import QueryWatch.Proofs.Store.Records
import QueryWatch.Proofs.Store.Waiting

/-!
What a store makes of events that come in any order and more than once. `Folded s events connection`
says that it holds of a connection, none of whose sessions has finished, just what the list of events
says of it: the first query under each command with the last result, and as waiting, the last result
of each command that is not issued. Each event keeps this, as long as no result is given up
(`Folded.step`), and `firstIssue_lastResult_run` reads it off for the store that the events lead to.
-/

set_option autoImplicit false

namespace QueryWatch.Store

variable {s t : Store} {events : List Event} {e : Event} {connection : ConnectionId}
  {command : CommandId}

/-- A store holds of a connection what a list of events says of it: at most one session, under way,
with the commands issued on it; the first query under each command, with the last result; and as
waiting, the last result of each command that is not issued. -/
structure Folded (s : Store) (events : List Event) (connection : ConnectionId) : Prop where
  live : ∀ x ∈ s.sessions, x.id.connection = connection →
    x.id.generation = 0 ∧ x.stage = .started ∧ x.commands = issuedCommands events connection
  idle : s.generations connection = 0 → issuedCommands events connection = []
  records : ∀ command, (s.record? ⟨⟨connection, 0⟩, command⟩).map (fun r ↦ (r.query, r.resolution)) =
    (firstIssue? events connection command).map fun query ↦
      (query, (lastResult? events connection command).map (·.resolution))
  orphans : ∀ command, s.orphans.filter (·.isOf connection command) =
    if (firstIssue? events connection command).isSome then []
    else (lastResult? events connection command).toList

namespace Folded

theorem generations_le (hf : s.Folded events connection) (hs : s.Coherent) :
    s.generations connection ≤ 1 := by
  by_contra hmore
  have hmem : (⟨connection, 1⟩ : SessionId) ∈ s.ids := by
    rw [hs.mem_ids_iff]
    exact Nat.lt_of_not_le hmore
  obtain ⟨x, hx, hid⟩ := List.mem_map.mp hmem
  have hzero := (hf.live x hx (by rw [hid])).1
  rw [hid] at hzero
  cases hzero

theorem generations_eq_zero_of_vacant (hf : s.Folded events connection) (hs : s.Coherent)
    (hvacant : s.Vacant connection) : s.generations connection = 0 := by
  cases hnewest : s.newestPlaced? connection with
  | none => exact hs.newestPlaced?_eq_none_iff.mp hnewest
  | some found =>
    obtain ⟨place, x⟩ := found
    obtain ⟨hplace, hconnection, -⟩ := hs.newestPlaced?_eq_some_iff.mp hnewest
    have hstarted := (hf.live x (List.mem_of_getElem? hplace) hconnection).2.1
    rw [hvacant place x hnewest] at hstarted
    cases hstarted

theorem mem_records_iff (hf : s.Folded events connection) (command : CommandId) :
    ⟨⟨connection, 0⟩, command⟩ ∈ s.records ↔
      (firstIssue? events connection command).isSome = true := by
  have hrecords := congrArg Option.isSome (hf.records command)
  simp only [Option.isSome_map] at hrecords
  rw [← hrecords, Std.ExtTreeMap.mem_iff_isSome_getElem?]
  rfl

/-- A result resolves the record of its command if there is one. -/
theorem target?_eq (hf : s.Folded events connection) (hs : s.Coherent) (command : CommandId) :
    s.target? connection command =
      if (firstIssue? events connection command).isSome then some ⟨⟨connection, 0⟩, command⟩
      else none := by
  have hle := hf.generations_le hs
  have hzero : ∀ key ∈ s.records, key.session.connection = connection →
      key.session.generation = 0 := by
    intro key hkey hconnection
    have hlt := hs.generation_lt_of_mem hkey
    rw [hconnection] at hlt
    omega
  split
  next hsome =>
    have hkey := (hf.mem_records_iff command).mpr hsome
    have hlt := hs.generation_lt_of_mem hkey
    exact hs.target?_of_newest hkey (Nat.le_antisymm hle hlt)
  next hnone =>
    cases htarget : s.target? connection command with
    | none => rfl
    | some key =>
      obtain ⟨hkey, rfl, rfl, -⟩ :=
        hs.newestKey?_eq_some_iff.mp (hs.target?_eq_some_iff.mp htarget).1
      refine absurd ((hf.mem_records_iff key.command).mp ?_) hnone
      have heq := hzero key hkey rfl
      rw [← heq]
      exact hkey

/-- Other events that say the same of a connection, and a store that holds the same of it. -/
theorem congr {events' : List Event} (hf : s.Folded events connection)
    (hissue : ∀ command,
      firstIssue? events' connection command = firstIssue? events connection command)
    (hresult : ∀ command,
      lastResult? events' connection command = lastResult? events connection command)
    (hissued : issuedCommands events' connection = issuedCommands events connection)
    (hlive : ∀ y ∈ t.sessions, y.id.connection = connection → y.id.generation = 0 ∧
      y.stage = .started ∧ y.commands = issuedCommands events connection)
    (hgenerations : s.generations connection ≤ t.generations connection)
    (hrecords : ∀ command, t.record? ⟨⟨connection, 0⟩, command⟩ =
      s.record? ⟨⟨connection, 0⟩, command⟩)
    (horphans : ∀ command, t.orphans.filter (·.isOf connection command) =
      s.orphans.filter (·.isOf connection command)) :
    t.Folded events' connection where
  live := by
    rw [hissued]
    exact hlive
  idle hzero := by
    rw [hissued]
    exact hf.idle (Nat.le_zero.mp (hzero ▸ hgenerations))
  records command := by
    rw [hissue, hresult, hrecords]
    exact hf.records command
  orphans command := by
    rw [hissue, hresult, horphans]
    exact hf.orphans command

/-- An event that says nothing of a connection leaves what is said of it. -/
theorem concat (hf : s.Folded events connection)
    (hissue : ∀ command, e.issue? connection command = none)
    (hresult : ∀ command, e.result? connection command = none)
    (hissuedOn : e.issuedOn? connection = none) :
    s.Folded (events ++ [e]) connection := by
  refine hf.congr (fun command ↦ ?_) (fun command ↦ ?_)
    (issuedCommands_concat_of_none events e connection hissuedOn) hf.live (Nat.le_refl _)
    (fun _ ↦ rfl) fun _ ↦ rfl
  · rw [firstIssue?_concat, hissue, Option.or_none]
  · rw [lastResult?_concat, hresult, Option.none_or]

/-! ### A session is at a stage -/

theorem openNext (hf : s.Folded events connection) (hs : s.Coherent) {other : ConnectionId}
    {stage : SessionStage} (hvacant : s.Vacant other)
    (hstarted : other = connection → stage = .started) :
    (s.openNext other stage).Folded events connection := by
  refine hf.congr (fun _ ↦ rfl) (fun _ ↦ rfl) rfl (fun y hy hconnection ↦ ?_) ?_
    (fun _ ↦ rfl) fun _ ↦ rfl
  · rcases mem_openSession hy with hy | rfl
    · exact hf.live y hy hconnection
    · obtain rfl : other = connection := hconnection
      have hzero := hf.generations_eq_zero_of_vacant hs hvacant
      exact ⟨hzero, hstarted rfl, (hf.idle hzero).symm⟩
  · rw [generations_openNext]
    split
    · exact Nat.le_succ _
    · exact Nat.le_refl _

theorem advance (hf : s.Folded events connection) : s.advance.Folded events connection :=
  ⟨hf.live, hf.idle, hf.records, hf.orphans⟩

theorem session (hf : s.Folded events connection) (hs : s.Coherent)
    {other : ConnectionId} {stage : SessionStage} (h : s.Step (.session other stage) t)
    (hstarted : other = connection → stage = .started) :
    t.Folded (events ++ [.session other stage]) connection := by
  refine concat ?_ (fun _ ↦ rfl) (fun _ ↦ rfl) rfl
  have hgenerations := h.generations_le connection
  cases h with
  | @staged _ _ place x hnewest hstage =>
    refine hf.congr (fun _ ↦ rfl) (fun _ ↦ rfl) rfl (fun y hy hconnection ↦ ?_) hgenerations
      (fun _ ↦ rfl) fun _ ↦ rfl
    obtain ⟨z, hz, rfl | ⟨hplace, rfl⟩⟩ := exists_of_mem_updateSession hy
    · exact hf.live y hz hconnection
    · obtain ⟨hgeneration, -, hcommands⟩ := hf.live z hz hconnection
      refine ⟨hgeneration, hstarted ?_, hcommands⟩
      obtain ⟨hx, hother, -⟩ := hs.newestPlaced?_eq_some_iff.mp hnewest
      rw [show s.advance.sessions = s.sessions from rfl, hx] at hplace
      cases hplace
      exact hother.symm.trans hconnection
  | @opened _ _ hvacant hstart =>
    exact hf.advance.openNext hs.advance hvacant hstarted

/-! ### A query has a result -/

/-- What is to be held after a result: its command has it as the last one. -/
theorem ofResult (hf : s.Folded events connection) {result : QueryResult}
    (hlive : ∀ y ∈ t.sessions, y.id.connection = connection → y.id.generation = 0 ∧
      y.stage = .started ∧ y.commands = issuedCommands events connection)
    (hgenerations : s.generations connection ≤ t.generations connection)
    (hrecords : ∀ command,
      (t.record? ⟨⟨connection, 0⟩, command⟩).map (fun r ↦ (r.query, r.resolution)) =
        (firstIssue? events connection command).map fun query ↦ (query,
          (if result.isOf connection command then some result
            else lastResult? events connection command).map (·.resolution)))
    (horphans : ∀ command, t.orphans.filter (·.isOf connection command) =
      if (firstIssue? events connection command).isSome then []
      else (if result.isOf connection command then some result
        else lastResult? events connection command).toList) :
    t.Folded (events ++ [.result result]) connection where
  live := by
    rw [issuedCommands_concat_of_none events (.result result) connection rfl]
    exact hlive
  idle hzero := by
    rw [issuedCommands_concat_of_none events (.result result) connection rfl]
    exact hf.idle (Nat.le_zero.mp (hzero ▸ hgenerations))
  records command := by
    rw [firstIssue?_concat_result, lastResult?_concat_result]
    exact hrecords command
  orphans command := by
    rw [firstIssue?_concat_result, lastResult?_concat_result]
    exact horphans command

theorem resolved (hf : s.Folded events connection) (hs : s.Coherent) {result : QueryResult}
    {key : RecordKey} (htarget : s.target? result.connection result.command = some key) :
    ((s.resolve key result).touch key.session).Folded (events ++ [.result result]) connection := by
  have hown : ∀ command, result.isOf connection command = true →
      (firstIssue? events connection command).isSome = true ∧ key = ⟨⟨connection, 0⟩, command⟩ := by
    intro command hisOf
    obtain ⟨rfl, rfl⟩ := isOf_iff.mp hisOf
    rw [hf.target?_eq hs] at htarget
    split at htarget
    next hsome => exact ⟨hsome, (Option.some.inj htarget).symm⟩
    next => cases htarget
  have hother : ∀ command, ¬result.isOf connection command = true →
      key ≠ ⟨⟨connection, 0⟩, command⟩ := by
    intro command hnot
    obtain ⟨-, hconnection, hcommand, -⟩ :=
      hs.newestKey?_eq_some_iff.mp (hs.target?_eq_some_iff.mp htarget).1
    rintro rfl
    exact hnot (isOf_iff.mpr ⟨hconnection.symm, hcommand.symm⟩)
  refine hf.ofResult (fun y hy hconnection ↦ ?_) ?_ (fun command ↦ ?_) fun command ↦ ?_
  · obtain ⟨x, hx, hsame⟩ := exists_of_mem_touch hy
    obtain ⟨hid, hstage, hcommands, -⟩ := Session.mk.injEq .. ▸ hsame
    rw [hid] at hconnection ⊢
    rw [hstage, hcommands]
    exact hf.live x hx hconnection
  · exact Nat.le_of_eq (generations_congr (ids_touch (s.resolve key result) key.session) _).symm
  · have hrecords := hf.records command
    simp only [record?, records_touch, resolve, updateRecord, Std.ExtTreeMap.getElem?_modify,
      Std.compare_eq_iff_eq] at hrecords ⊢
    by_cases hisOf : result.isOf connection command = true
    · have hkey := (hown command hisOf).2
      have hqueries := congrArg (Option.map fun p ↦ (p.1, some result.resolution)) hrecords
      rw [Option.map_map, Option.map_map] at hqueries
      rw [if_pos hisOf, if_pos hkey, hkey, Option.map_map]
      exact hqueries
    · rw [if_neg hisOf, if_neg (hother command hisOf)]
      exact hrecords
  · have horphans := hf.orphans command
    rw [orphans_touch]
    by_cases hisOf : result.isOf connection command = true
    · rw [if_pos (hown command hisOf).1] at horphans ⊢
      exact horphans
    · rw [if_neg hisOf]
      exact horphans

theorem buffered (hf : s.Folded events connection) (hs : s.Coherent)
    (hdistinct : s.orphans.Pairwise fun a b ↦ a.isOf b.connection b.command = false)
    (hcapacity : 0 < s.settings.orphanCapacity) {result : QueryResult}
    (htarget : s.target? result.connection result.command = none)
    (hkept : (s.buffer result).2.counts.orphansEvicted = s.counts.orphansEvicted) :
    (s.buffer result).2.Folded (events ++ [.result result]) connection := by
  have hown : ∀ command, result.isOf connection command = true →
      firstIssue? events connection command = none := by
    intro command hisOf
    obtain ⟨rfl, rfl⟩ := isOf_iff.mp hisOf
    rw [hf.target?_eq hs] at htarget
    split at htarget
    next => cases htarget
    next hnone => exact Option.not_isSome_iff_eq_none.mp hnone
  refine hf.ofResult ?_ ?_ (fun command ↦ ?_) fun command ↦ ?_
  · rw [sessions_buffer]
    exact hf.live
  · exact Nat.le_of_eq (generations_congr (ids_congr (sessions_buffer s result)) _).symm
  · have hrecords := hf.records command
    rw [record?, records_buffer]
    by_cases hisOf : result.isOf connection command = true
    · rw [hown command hisOf] at hrecords ⊢
      exact hrecords
    · rw [if_neg hisOf]
      exact hrecords
  · have horphans := hf.orphans command
    rw [orphans_buffer_of_kept hcapacity hkept, List.filter_append, filter_otherOrphans hdistinct]
    by_cases hisOf : result.isOf connection command = true
    · have hlast : [result].filter (·.isOf connection command) = [result] := by simp [hisOf]
      rw [hown command hisOf, if_pos (isOf_iff.mp hisOf), if_pos hisOf, hlast]
      rfl
    · have hlast : [result].filter (·.isOf connection command) = [] := by simp [hisOf]
      rw [if_neg fun hsame ↦ hisOf (isOf_iff.mpr hsame), if_neg hisOf, hlast, List.append_nil]
      exact horphans

/-! ### A query is issued -/

theorem repeated (hf : s.Folded events connection) (hs : s.Coherent) {query : Query}
    (hduplicate : s.isDuplicate query = true) :
    s.Folded (events ++ [.issued query]) connection := by
  by_cases hconnection : query.connection = connection
  · subst hconnection
    obtain ⟨x, hnewest, hkey⟩ := (isDuplicate_iff s query).mp hduplicate
    obtain ⟨hx, hid, -⟩ := hs.newestSession?_eq_some_iff.mp hnewest
    obtain ⟨hgeneration, -, hcommands⟩ := hf.live x hx hid
    have hcommand : query.command ∈ issuedCommands events query.connection :=
      hcommands ▸ (hs.mem_records_iff hx query.command).mp hkey
    have hfirst : (firstIssue? events query.connection query.command).isSome = true := by
      rw [← hf.mem_records_iff, ← hid, ← hgeneration]
      exact hkey
    refine hf.congr (fun command ↦ ?_) (fun _ ↦ lastResult?_concat_issued ..) ?_ hf.live
      (Nat.le_refl _) (fun _ ↦ rfl) fun _ ↦ rfl
    · obtain ⟨first, hsome⟩ := Option.isSome_iff_exists.mp hfirst
      by_cases hsame : query.command = command
      · rw [firstIssue?_concat, ← hsame, hsome, Option.some_or]
      · rw [firstIssue?_concat, Event.issue?, if_neg fun hboth ↦ hsame hboth.2, Option.or_none]
    · rw [issuedCommands_concat_of_some (e := .issued query) events query.connection (if_pos rfl),
        if_pos hcommand]
  · refine hf.concat (fun command ↦ ?_) (fun _ ↦ rfl) (if_neg hconnection)
    exact if_neg fun hsame ↦ hconnection hsame.1

theorem destination (hf : s.Folded events connection) (hs : s.Coherent) {other : ConnectionId}
    {place : Nat} {x : Session} (h : s.Destination other place x t) :
    t.Folded events connection := by
  rcases h.cases with ⟨rfl, -⟩ | ⟨hvacant, rfl, -⟩
  · exact hf
  · exact hf.openNext hs hvacant fun _ ↦ rfl

/-- A query of another connection is recorded. -/
theorem withQuery_of_ne (hf : s.Folded events connection)
    (hdistinct : s.orphans.Pairwise fun a b ↦ a.isOf b.connection b.command = false)
    {place : Nat} {x : Session} {query : Query} (hother : query.connection ≠ connection)
    (hplace : s.sessions[place]? = some x) (hid : x.id.connection = query.connection) :
    (s.withQuery place x.id.generation query).Folded (events ++ [.issued query]) connection := by
  refine concat (hf.congr (fun _ ↦ rfl) (fun _ ↦ rfl) rfl (fun y hy hconnection ↦ ?_)
    (Nat.le_of_eq (generations_congr (ids_withQuery ..) _).symm) (fun command ↦ ?_)
    fun command ↦ ?_) (fun _ ↦ if_neg fun hsame ↦ hother hsame.1) (fun _ ↦ rfl) (if_neg hother)
  · obtain ⟨z, hz, rfl | ⟨hfound, rfl⟩⟩ := exists_of_mem_updateSession hy
    · exact hf.live y hz hconnection
    · rw [hplace] at hfound
      cases hfound
      exact absurd (hid.symm.trans hconnection) hother
  · simp only [record?, withQuery, Std.ExtTreeMap.getElem?_insert, Std.compare_eq_iff_eq]
    refine if_neg fun hkey ↦ hother ?_
    exact congrArg (·.session.connection) hkey
  · show (s.otherOrphans query.connection query.command).filter _ = _
    rw [filter_otherOrphans hdistinct, if_neg fun hsame ↦ hother hsame.1]

/-- A query is recorded, with the last of the results that came before it. -/
theorem withQuery (hf : s.Folded events connection) (hs : s.Coherent)
    (hdistinct : s.orphans.Pairwise fun a b ↦ a.isOf b.connection b.command = false)
    {place : Nat} {x : Session} {query : Query} (hconnection : query.connection = connection)
    (hfound : s.newestPlaced? query.connection = some (place, x))
    (hkey : ⟨x.id, query.command⟩ ∉ s.records) :
    (s.withQuery place x.id.generation query).Folded (events ++ [.issued query]) connection := by
  subst hconnection
  obtain ⟨hplace, hid, -⟩ := hs.newestPlaced?_eq_some_iff.mp hfound
  have hx : x ∈ s.sessions := List.mem_of_getElem? hplace
  obtain ⟨hgeneration, hstage, hcommands⟩ := hf.live x hx hid
  have hxid : x.id = ⟨query.connection, 0⟩ := by rw [← hid, ← hgeneration]
  have hnone : firstIssue? events query.connection query.command = none := by
    refine Option.not_isSome_iff_eq_none.mp fun hsome ↦ hkey ?_
    rw [hxid]
    exact (hf.mem_records_iff query.command).mpr hsome
  have hcommand : query.command ∉ issuedCommands events query.connection :=
    hcommands ▸ fun hmem ↦ hkey ((hs.mem_records_iff hx query.command).mpr hmem)
  have hissued : issuedCommands (events ++ [.issued query]) query.connection =
      issuedCommands events query.connection ++ [query.command] := by
    rw [issuedCommands_concat_of_some (e := .issued query) events query.connection (if_pos rfl),
      if_neg hcommand]
  have hfirst : ∀ command, firstIssue? (events ++ [.issued query]) query.connection command =
      if query.command = command then some query
      else firstIssue? events query.connection command := by
    intro command
    rw [firstIssue?_concat, Event.issue?]
    by_cases hsame : query.command = command
    · rw [if_pos hsame, if_pos ⟨rfl, hsame⟩, ← hsame, hnone, Option.none_or]
    · rw [if_neg hsame, if_neg fun hboth ↦ hsame hboth.2, Option.or_none]
  have horphan : s.orphan? query.connection query.command =
      lastResult? events query.connection query.command := by
    rw [orphan?, ← List.head?_filter, hf.orphans, hnone, if_neg (by simp)]
    cases lastResult? events query.connection query.command <;> rfl
  have ht : (s.withQuery place x.id.generation query).Coherent := hs.withQuery hfound hkey
  refine ⟨fun y hy hsame ↦ ?_, fun hzero ↦ ?_, fun command ↦ ?_, fun command ↦ ?_⟩
  · -- The connection has no other session, so this is the one in which the query was recorded.
    have hyid : y.id = x.id := by
      obtain ⟨z, hz, rfl | ⟨hat, rfl⟩⟩ := exists_of_mem_updateSession hy
      · rw [hxid, ← hsame, ← (hf.live y hz hsame).1]
      · rw [hplace] at hat
        cases hat
        rfl
    obtain rfl : y = x.issued query.command s.lastNumber :=
      ht.eq_of_id_eq hy (mem_updateSession_of_place _ hplace) hyid
    refine ⟨hgeneration, hstage, ?_⟩
    rw [hissued, ← hcommands]
    rfl
  · rw [generations_congr (ids_withQuery ..)] at hzero
    have hlt := hs.mem_ids_iff.mp (mem_ids_of_mem hx)
    rw [hid, hzero] at hlt
    exact absurd hlt (Nat.not_lt_zero _)
  · rw [lastResult?_concat_issued, hfirst]
    simp only [record?, withQuery, Std.ExtTreeMap.getElem?_insert, Std.compare_eq_iff_eq]
    by_cases hsame : query.command = command
    · subst hsame
      rw [if_pos (by rw [hgeneration]), if_pos rfl, recordFor, horphan]
      rfl
    · rw [if_neg fun heq ↦ hsame (congrArg (·.command) heq), if_neg hsame]
      exact hf.records command
  · rw [lastResult?_concat_issued, hfirst]
    show (s.otherOrphans query.connection query.command).filter _ = _
    rw [filter_otherOrphans hdistinct]
    by_cases hsame : query.command = command
    · rw [if_pos ⟨rfl, hsame⟩, if_pos hsame]
      rfl
    · rw [if_neg fun hboth ↦ hsame hboth.2, if_neg hsame]
      exact hf.orphans command

/-- Every event keeps it, if it does not finish a session of the connection and no result is given
up. -/
theorem step (hf : s.Folded events connection) (hs : s.Coherent) (hw : s.Waiting)
    (hcapacity : 0 < s.settings.orphanCapacity) (h : s.Step e t)
    (hlive : e ≠ .session connection .finished)
    (hkept : t.counts.orphansEvicted = s.counts.orphansEvicted) :
    t.Folded (events ++ [e]) connection := by
  cases e with
  | session other stage =>
    refine hf.session hs h fun hsame ↦ ?_
    subst hsame
    cases stage with
    | started => rfl
    | finished => exact absurd rfl hlive
  | issued query =>
    cases h with
    | repeated hduplicate =>
      have hrepeated := hf.repeated hs hduplicate
      exact ⟨hrepeated.live, hrepeated.idle, hrepeated.records, hrepeated.orphans⟩
    | @recorded _ place x u hnew hdestination hconnection hkey =>
      have hu := hf.advance.destination hs.advance hdestination
      have hdistinct : u.orphans.Pairwise fun a b ↦ a.isOf b.connection b.command = false := by
        rw [hdestination.orphans_eq]
        exact hw.distinct
      by_cases hsame : query.connection = connection
      · exact hu.withQuery hdestination.coherent hdistinct hsame hdestination.found hkey
      · obtain ⟨hplace, hid, -⟩ :=
          hdestination.coherent.newestPlaced?_eq_some_iff.mp hdestination.found
        exact hu.withQuery_of_ne hdistinct hsame hplace hid
  | result result =>
    cases h with
    | resolved htarget =>
      have hresolved := hf.advance.resolved hs.advance htarget
      exact ⟨hresolved.live, hresolved.idle, hresolved.records, hresolved.orphans⟩
    | buffered htarget =>
      exact hf.advance.buffered hs.advance hw.distinct hcapacity htarget hkept

end Folded

/-! ### Runs -/

end QueryWatch.Store
