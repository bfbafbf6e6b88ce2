import QueryWatch.Proofs.Store.Run

/-!
The results that wait for their query. `Store.Waiting` says that they fit into the buffer, that at
most one waits for each command, and that none waits for a record it could resolve. Every event and
everything people do keeps this (`Waiting.step`, `Waiting.run`): what a result could resolve only
becomes less (`Coherent.target?_mono`), except for the command whose query is issued, and the result
of that command is taken out.
-/

set_option autoImplicit false

namespace QueryWatch.Store

variable {s t : Store} {e : Event} {connection : ConnectionId} {command : CommandId}
  {key : RecordKey}

/-- The results that wait are as many as may wait, one for each command, and none of them could
resolve a record that is there. -/
structure Waiting (s : Store) : Prop where
  bounded : s.orphans.length ≤ s.settings.orphanCapacity
  distinct : s.orphans.Pairwise fun a b ↦ a.isOf b.connection b.command = false
  untargeted : ∀ o ∈ s.orphans, s.target? o.connection o.command = none

/-! ### Taking out and putting in -/

theorem isOf_iff {r : QueryResult} :
    r.isOf connection command = true ↔ r.connection = connection ∧ r.command = command := by
  simp [QueryResult.isOf, and_comm]

/-- Taking out the result of a command leaves those of all others. -/
theorem otherOrphans_eq_filter
    (hdistinct : s.orphans.Pairwise fun a b ↦ a.isOf b.connection b.command = false)
    (connection : ConnectionId) (command : CommandId) :
    s.otherOrphans connection command = s.orphans.filter fun o ↦ !o.isOf connection command := by
  unfold otherOrphans
  generalize s.orphans = orphans at hdistinct ⊢
  induction orphans with
  | nil => rfl
  | cons o rest ih =>
    obtain ⟨hfirst, hrest⟩ := List.pairwise_cons.mp hdistinct
    cases ho : o.isOf connection command with
    | true =>
      rw [List.eraseP_cons, ho, cond_true, List.filter_cons_of_neg (by simp [ho]), eq_comm,
        List.filter_eq_self]
      intro other hother
      have hne := hfirst other hother
      rw [Bool.not_eq_true', Bool.eq_false_iff, ne_eq, isOf_iff]
      rintro ⟨rfl, rfl⟩
      rw [ho] at hne
      cases hne
    | false =>
      rw [List.eraseP_cons, ho, cond_false, List.filter_cons_of_pos (by simp [ho]), ih hrest]

/-- A result that waits replaces the one of its command and stands behind the others, of which the
first is given up when there is no room. -/
theorem orphans_buffer (s : Store) (result : QueryResult) :
    (s.buffer result).2.orphans =
      let others := s.otherOrphans result.connection result.command
      if s.settings.orphanCapacity = 0 then s.orphans
      else if s.settings.orphanCapacity ≤ others.length then others.tail ++ [result]
      else others ++ [result] := by
  unfold buffer otherOrphans
  dsimp only
  split
  · rfl
  · split <;> rfl

/-- Taking out the result of a command leaves one result less, if one waits. -/
theorem length_otherOrphans (s : Store) (connection : ConnectionId) (command : CommandId) :
    (s.otherOrphans connection command).length +
      (if (s.orphan? connection command).isSome then 1 else 0) = s.orphans.length := by
  cases hfound : s.orphan? connection command with
  | none =>
    rw [otherOrphans_of_orphan?_eq_none hfound]
    rfl
  | some o =>
    have hmem : o ∈ s.orphans := List.mem_of_find?_eq_some hfound
    have hpos := List.length_pos_of_mem hmem
    have hfind : s.orphans.find? (·.isOf connection command) = some o := hfound
    have hof := List.find?_some hfind
    rw [otherOrphans, List.length_eraseP_of_mem hmem hof, Option.isSome_some, if_pos rfl]
    omega

theorem buffer_fst (s : Store) (result : QueryResult) :
    (s.buffer result).1 = if s.settings.orphanCapacity = 0 then .dropped else .buffered := by
  unfold buffer
  dsimp only
  split <;> rfl

/-- A result that has no target is counted, and so is what is lost by it: the result itself if none
may wait, the one that is given up if there is no room. -/
theorem counts_buffer (s : Store) (result : QueryResult) :
    (s.buffer result).2.counts =
      let others := s.otherOrphans result.connection result.command
      { s.counts with
        orphanResults := s.counts.orphanResults + 1
        orphansDropped := s.counts.orphansDropped +
          if s.settings.orphanCapacity = 0 then 1 else 0
        orphansEvicted := s.counts.orphansEvicted +
          if s.settings.orphanCapacity = 0 ∨ others.length < s.settings.orphanCapacity then 0
          else 1 } := by
  have hothers : otherOrphans { s with counts.orphanResults := s.counts.orphanResults + 1 }
      result.connection result.command = s.otherOrphans result.connection result.command := rfl
  unfold buffer
  dsimp only
  rw [hothers]
  by_cases hzero : s.settings.orphanCapacity = 0
  · simp [hzero]
  · by_cases hfull :
      s.settings.orphanCapacity ≤ (s.otherOrphans result.connection result.command).length
    · simp [hzero, hfull]
    · simp [hzero, hfull, Nat.not_le.mp hfull]

/-- A result is let in without giving one up exactly if results may not wait or there is room. -/
theorem orphansEvicted_buffer_eq_iff (s : Store) (result : QueryResult) :
    (s.buffer result).2.counts.orphansEvicted = s.counts.orphansEvicted ↔
      s.settings.orphanCapacity = 0 ∨
        (s.otherOrphans result.connection result.command).length < s.settings.orphanCapacity := by
  rw [counts_buffer]
  dsimp only
  split
  next hroom => exact iff_of_true rfl hroom
  next hfull => exact iff_of_false (Nat.succ_ne_self _) hfull

/-- Of the results of a command none is left when it is taken out, and those of others stay. -/
theorem filter_otherOrphans
    (hdistinct : s.orphans.Pairwise fun a b ↦ a.isOf b.connection b.command = false)
    (other connection : ConnectionId) (taken command : CommandId) :
    (s.otherOrphans other taken).filter (·.isOf connection command) =
      if other = connection ∧ taken = command then []
      else s.orphans.filter (·.isOf connection command) := by
  rw [otherOrphans_eq_filter hdistinct, List.filter_filter]
  split
  next hsame =>
    obtain ⟨rfl, rfl⟩ := hsame
    simp
  next hother =>
    refine List.filter_congr fun o _ ↦ ?_
    cases ho : o.isOf connection command with
    | false => rw [Bool.false_and]
    | true =>
      obtain ⟨rfl, rfl⟩ := isOf_iff.mp ho
      have hnot : ¬o.isOf other taken = true := fun heq ↦
        hother ⟨(isOf_iff.mp heq).1.symm, (isOf_iff.mp heq).2.symm⟩
      simp [hnot]

/-- A result that may wait stands behind the others when none is given up for it. -/
theorem orphans_buffer_of_kept {result : QueryResult} (hcapacity : 0 < s.settings.orphanCapacity)
    (hkept : (s.buffer result).2.counts.orphansEvicted = s.counts.orphansEvicted) :
    (s.buffer result).2.orphans =
      s.otherOrphans result.connection result.command ++ [result] := by
  have hroom := ((orphansEvicted_buffer_eq_iff s result).mp hkept).resolve_left
    (Nat.ne_of_gt hcapacity)
  rw [orphans_buffer]
  dsimp only
  rw [if_neg (Nat.ne_of_gt hcapacity), if_neg (Nat.not_le.mpr hroom)]

theorem length_orphans_buffer_le (hs : s.orphans.length ≤ s.settings.orphanCapacity)
    (result : QueryResult) :
    (s.buffer result).2.orphans.length ≤ s.settings.orphanCapacity := by
  have hothers : (s.otherOrphans result.connection result.command).length ≤ s.orphans.length :=
    List.length_eraseP_le
  rw [orphans_buffer]
  dsimp only
  split
  · exact hs
  · split
    · rw [List.length_append, List.length_tail, List.length_singleton]
      omega
    · rw [List.length_append, List.length_singleton]
      omega

/-- A result that waits after another one was let in waited before or is that one. -/
theorem mem_orphans_buffer {result o : QueryResult} (ho : o ∈ (s.buffer result).2.orphans) :
    o ∈ s.orphans ∨ o = result := by
  have hothers : ∀ o ∈ s.otherOrphans result.connection result.command, o ∈ s.orphans :=
    fun o ho ↦ List.mem_of_mem_eraseP ho
  rw [orphans_buffer] at ho
  dsimp only at ho
  split at ho
  · exact Or.inl ho
  · split at ho <;> rcases List.mem_append.mp ho with ho | ho
    · exact Or.inl (hothers o (List.mem_of_mem_tail ho))
    · exact Or.inr (List.mem_singleton.mp ho)
    · exact Or.inl (hothers o ho)
    · exact Or.inr (List.mem_singleton.mp ho)

theorem pairwise_orphans_buffer
    (hs : s.orphans.Pairwise fun a b ↦ a.isOf b.connection b.command = false)
    (result : QueryResult) : (s.buffer result).2.orphans.Pairwise fun a b ↦
      a.isOf b.connection b.command = false := by
  have hothers := otherOrphans_eq_filter hs result.connection result.command
  have hpairwise : (s.otherOrphans result.connection result.command).Pairwise fun a b ↦
      a.isOf b.connection b.command = false := hs.sublist List.eraseP_sublist
  have hnone : ∀ o ∈ s.otherOrphans result.connection result.command,
      o.isOf result.connection result.command = false := by
    intro o ho
    rw [hothers, List.mem_filter, Bool.not_eq_true'] at ho
    exact ho.2
  rw [orphans_buffer]
  dsimp only
  split
  · exact hs
  · split <;> refine List.pairwise_append.mpr ⟨?_, List.pairwise_singleton .., fun a ha b hb ↦ ?_⟩
    · exact hpairwise.sublist (List.tail_sublist _)
    · rw [List.mem_singleton.mp hb]
      exact hnone a (List.mem_of_mem_tail ha)
    · exact hpairwise
    · rw [List.mem_singleton.mp hb]
      exact hnone a ha

/-! ### What a result could resolve -/

/-- What a result could resolve does not become more while the records of its command stay, none of
them becomes pending, and no generation is lost. -/
theorem Coherent.target?_mono (hs : s.Coherent) (ht : t.Coherent)
    (hmem : ∀ generation, ⟨⟨connection, generation⟩, command⟩ ∈ t.records ↔
      ⟨⟨connection, generation⟩, command⟩ ∈ s.records)
    (hpending : ∀ generation, t.isPending ⟨⟨connection, generation⟩, command⟩ = true →
      s.isPending ⟨⟨connection, generation⟩, command⟩ = true)
    (hgenerations : s.generations connection ≤ t.generations connection)
    (htarget : t.target? connection command = some key) :
    s.target? connection command = some key := by
  obtain ⟨hkey, hor⟩ := ht.target?_eq_some_iff.mp htarget
  obtain ⟨hin, rfl, rfl, hlast⟩ := ht.newestKey?_eq_some_iff.mp hkey
  have hkeys : key ∈ s.records := (hmem key.session.generation).mp hin
  refine hs.target?_eq_some_iff.mpr ⟨hs.newestKey?_eq_some_iff.mpr ⟨hkeys, rfl, rfl,
    fun generation hlt hthere ↦ hlast generation hlt ((hmem generation).mpr hthere)⟩, ?_⟩
  rcases hor with hnewest | hpend
  · -- The newest generation of `t` has the record, so `s` cannot have a newer one.
    have hlt := hs.generation_lt_of_mem hkeys
    left
    omega
  · exact Or.inr (hpending key.session.generation hpend)

/-- A command that has no target gets none by a step, unless its query is issued. -/
theorem Coherent.target?_eq_none_of_step (hs : s.Coherent) (h : s.Step e t) (ht : t.Coherent)
    (hother : ∀ query, e = .issued query → query.connection = connection →
      query.command ≠ command)
    (htarget : s.target? connection command = none) : t.target? connection command = none := by
  have hold : ∀ generation, ⟨⟨connection, generation⟩, command⟩ ∈ t.records →
      ⟨⟨connection, generation⟩, command⟩ ∈ s.records := by
    intro generation hkey
    by_contra hnot
    obtain ⟨query, rfl, hconnection, hcommand, -⟩ := h.issued_of_not_mem hnot hkey
    exact hother query rfl hconnection.symm hcommand.symm
  cases hnone : t.target? connection command with
  | none => rfl
  | some key =>
    rw [hs.target?_mono ht (fun generation ↦ ⟨hold generation, fun hkey ↦ ?_⟩)
      (fun generation hpending ↦ ?_) (h.generations_le connection) hnone] at htarget
    · cases htarget
    · obtain ⟨r, hr⟩ := mem_records_iff_record?.mp hkey
      rcases h.record_cases hr with hsame | ⟨_, _, _, hsame⟩
      · exact mem_records_iff_record?.mpr ⟨_, hsame⟩
      · exact mem_records_iff_record?.mpr ⟨_, hsame⟩
    · obtain ⟨r, hr, hunresolved⟩ := isPending_iff.mp hpending
      obtain ⟨old, hrecord⟩ := mem_records_iff_record?.mp
        (hold generation (mem_records_iff_record?.mpr ⟨r, hr⟩))
      rcases h.record_cases hrecord with hsame | ⟨_, _, _, hsame⟩
      · rw [hsame] at hr
        cases hr
        exact isPending_iff.mpr ⟨_, hrecord, hunresolved⟩
      · rw [hsame] at hr
        cases hr
        cases hunresolved

/-! ### Every step -/

/-- A result that waits waited before or has just come. -/
theorem Step.mem_orphans (h : s.Step e t) {o : QueryResult} (ho : o ∈ t.orphans) :
    o ∈ s.orphans ∨ e = .result o := by
  cases h with
  | staged hnewest hstage => exact Or.inl ho
  | opened hvacant hstart => exact Or.inl ho
  | repeated hduplicate => exact Or.inl ho
  | recorded hnew hdestination hconnection hkey =>
    have hmem := List.mem_of_mem_eraseP ho
    rw [hdestination.orphans_eq] at hmem
    exact Or.inl hmem
  | @resolved result key htarget =>
    have horphans := orphans_touch (s.advance.resolve key result) key.session
    exact Or.inl (horphans ▸ ho)
  | buffered htarget =>
    rcases mem_orphans_buffer ho with hold | rfl
    · exact Or.inl hold
    · exact Or.inr rfl

/-- Only a result that waits can make another one be given up. -/
theorem Step.orphansEvicted_eq (h : s.Step e t) (hroom : ∀ result, e = .result result →
      s.target? result.connection result.command = none → s.settings.orphanCapacity = 0 ∨
        (s.otherOrphans result.connection result.command).length < s.settings.orphanCapacity) :
    t.counts.orphansEvicted = s.counts.orphansEvicted := by
  cases h with
  | staged hnewest hstage => rfl
  | opened hvacant hstart => rfl
  | repeated hduplicate => rfl
  | recorded hnew hdestination hconnection hkey =>
    rcases hdestination.cases with ⟨rfl, -⟩ | ⟨-, rfl, -⟩ <;> rfl
  | resolved htarget =>
    dsimp only
    rw [touch_counts]
    rfl
  | @buffered result htarget =>
    exact (orphansEvicted_buffer_eq_iff s.advance result).mpr (hroom result rfl htarget)

theorem waiting_empty (settings : StoreSettings) : (empty settings).Waiting where
  bounded := Nat.zero_le _
  distinct := List.Pairwise.nil
  untargeted o ho := by cases ho

/-- An event keeps what holds of the results that wait. -/
theorem Waiting.step (hw : s.Waiting) (hs : s.Coherent) (h : s.Step e t) (ht : t.Coherent) :
    t.Waiting := by
  have hnone : ∀ o ∈ s.orphans, (∀ query, e = .issued query →
      o.isOf query.connection query.command = false) → t.target? o.connection o.command = none := by
    intro o ho hother
    refine hs.target?_eq_none_of_step h ht (fun query he hconnection hcommand ↦ ?_)
      (hw.untargeted o ho)
    have hnot := hother query he
    rw [Bool.eq_false_iff, ne_eq, isOf_iff] at hnot
    exact hnot ⟨hconnection.symm, hcommand.symm⟩
  cases h with
  | staged hnewest hstage => exact ⟨hw.bounded, hw.distinct, fun o ho ↦ hnone o ho nofun⟩
  | opened hvacant hstart => exact ⟨hw.bounded, hw.distinct, fun o ho ↦ hnone o ho nofun⟩
  | repeated hduplicate => exact ⟨hw.bounded, hw.distinct, hw.untargeted⟩
  | @recorded query place x u hnew hdestination hconnection hkey =>
    have horphans : u.otherOrphans query.connection query.command =
        s.otherOrphans query.connection query.command :=
      congrArg (List.eraseP _) hdestination.orphans_eq
    refine ⟨?_, ?_, fun o ho ↦ ?_⟩
    · show (u.otherOrphans query.connection query.command).length ≤ u.settings.orphanCapacity
      rw [horphans, hdestination.settings_eq]
      exact Nat.le_trans List.length_eraseP_le hw.bounded
    · show (u.otherOrphans query.connection query.command).Pairwise _
      rw [horphans]
      exact hw.distinct.sublist List.eraseP_sublist
    · have hmem : o ∈ s.otherOrphans query.connection query.command := horphans ▸ ho
      rw [otherOrphans_eq_filter hw.distinct, List.mem_filter, Bool.not_eq_true'] at hmem
      refine hnone o hmem.1 fun other hother ↦ ?_
      cases hother
      exact hmem.2
  | @resolved result target htarget =>
    have horphans := orphans_touch (s.advance.resolve target result) target.session
    refine ⟨?_, ?_, fun o ho ↦ hnone o ?_ nofun⟩
    · show ((s.advance.resolve target result).touch target.session).orphans.length ≤ _
      rw [horphans, settings_touch]
      exact hw.bounded
    · show ((s.advance.resolve target result).touch target.session).orphans.Pairwise _
      rw [horphans]
      exact hw.distinct
    · exact horphans ▸ ho
  | @buffered result htarget =>
    refine ⟨?_, pairwise_orphans_buffer (s := s.advance) hw.distinct result, fun o ho ↦ ?_⟩
    · rw [settings_buffer]
      exact length_orphans_buffer_le (s := s.advance) hw.bounded result
    · rcases mem_orphans_buffer ho with hold | rfl
      · exact hnone o hold nofun
      · exact hs.target?_eq_none_of_step (.buffered htarget) ht nofun htarget

/-- How records are shown says nothing about which results wait. -/
theorem Waiting.alike (hw : s.Waiting) (hs : s.Coherent) (ht : t.Coherent) (h : s.Alike t) :
    t.Waiting := by
  have horphans : t.orphans = s.orphans := by rw [h.rest]
  have hsettings : t.settings = s.settings := by rw [h.rest]
  have hsessions : t.sessions = s.sessions := by rw [h.rest]
  refine ⟨by rw [horphans, hsettings]; exact hw.bounded, horphans ▸ hw.distinct, fun o ho ↦ ?_⟩
  have hnone := hw.untargeted o (horphans ▸ ho)
  cases htarget : t.target? o.connection o.command with
  | none => rfl
  | some key =>
    rw [hs.target?_mono ht (fun _ ↦ h.mem_records_iff) (fun _ hpending ↦ h.isPending_eq _ ▸ hpending)
      (Nat.le_of_eq (generations_congr (ids_congr hsessions) _).symm) htarget] at hnone
    cases hnone

theorem Waiting.perform (hw : s.Waiting) (hs : s.Coherent) (operation : Operation) :
    (s.perform operation).Waiting := by
  rcases operation.cases_isShowing with hshowing | rfl | ⟨e, rfl⟩
  · exact hw.alike hs (hs.perform operation) (perform_of_isShowing hshowing)
  · exact ⟨Nat.zero_le _, List.Pairwise.nil, nofun⟩
  · exact hw.step hs (hs.step_receive e) (hs.receive e)

theorem Waiting.run (hw : s.Waiting) (hs : s.Coherent) (operations : List Operation) :
    (s.run operations).Waiting := by
  induction operations generalizing s with
  | nil => exact hw
  | cons operation operations ih => exact ih (hw.perform hs operation) (hs.perform operation)

end QueryWatch.Store
