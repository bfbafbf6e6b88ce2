import QueryWatch.Proofs.Store.Coherence

/-!
The newest record of a command in a coherent store. `Coherent.newestKey?_eq_some_iff` says that the
search through the generations finds the last one that has the command, whichever generations have
sessions, and `Coherent.target?_eq_some_iff` which record a result resolves.
-/

set_option autoImplicit false

namespace QueryWatch.Store

variable {s t : Store} {connection : ConnectionId} {command : CommandId} {key : RecordKey}

theorem mem_records_iff_record? : key ∈ s.records ↔ ∃ r, s.record? key = some r := by
  rw [Std.ExtTreeMap.mem_iff_isSome_getElem?, Option.isSome_iff_exists]
  rfl

theorem isPending_iff :
    s.isPending key = true ↔ ∃ r, s.record? key = some r ∧ r.resolution = none := by
  unfold isPending
  cases s.record? key with
  | none => simp
  | some r => simp [RecordedQuery.isPending]

/-- Searching a range from above finds the last number with a property. -/
theorem find?_reverse_range_eq_some_iff {p : Nat → Bool} {n g : Nat} :
    (List.range n).reverse.find? p = some g ↔
      g < n ∧ p g = true ∧ ∀ k, g < k → k < n → p k = false := by
  induction n with
  | zero => simp
  | succ n ih =>
    rw [List.range_succ, List.reverse_append, List.reverse_singleton, List.singleton_append,
      List.find?_cons]
    cases hp : p n with
    | true =>
      simp only [Option.some.injEq]
      constructor
      · rintro rfl
        exact ⟨Nat.lt_succ_self n, hp, fun k hk hlt ↦ absurd hlt (by omega)⟩
      · rintro ⟨hlt, -, hlast⟩
        by_contra hne
        have := hlast n (by omega) (Nat.lt_succ_self n)
        rw [hp] at this
        cases this
    | false =>
      rw [ih]
      constructor
      · rintro ⟨hlt, hg, hlast⟩
        refine ⟨Nat.lt_succ_of_lt hlt, hg, fun k hk hkn ↦ ?_⟩
        rcases Nat.lt_succ_iff_lt_or_eq.mp hkn with hkn | rfl
        · exact hlast k hk hkn
        · exact hp
      · rintro ⟨hlt, hg, hlast⟩
        refine ⟨?_, hg, fun k hk hkn ↦ hlast k hk (Nat.lt_succ_of_lt hkn)⟩
        rcases Nat.lt_succ_iff_lt_or_eq.mp hlt with hlt | rfl
        · exact hlt
        · rw [hp] at hg
          cases hg

namespace Coherent

/-- The search goes through all generations that there are. -/
theorem newestKey?_eq (h : s.Coherent) (connection : ConnectionId) (command : CommandId) :
    s.newestKey? connection command =
      ((List.range (s.generations connection)).reverse.find? fun generation ↦
        (⟨⟨connection, generation⟩, command⟩ : RecordKey) ∈ s.records).map fun generation ↦
          ⟨⟨connection, generation⟩, command⟩ := by
  unfold newestKey?
  cases hnewest : s.newestSession? connection with
  | none => simp [h.newestSession?_eq_none_iff.mp hnewest]
  | some x =>
    rw [Option.bind_some, (h.newestSession?_eq_some_iff.mp hnewest).2.2, List.find?_map]
    rfl

/-- The newest record of a command is that of the last generation that has one. -/
theorem newestKey?_eq_some_iff (h : s.Coherent) :
    s.newestKey? connection command = some key ↔
      key ∈ s.records ∧ key.session.connection = connection ∧ key.command = command ∧
        ∀ generation, key.session.generation < generation →
          ⟨⟨connection, generation⟩, command⟩ ∉ s.records := by
  rw [h.newestKey?_eq, Option.map_eq_some_iff]
  simp only [find?_reverse_range_eq_some_iff, decide_eq_true_eq, decide_eq_false_iff_not]
  constructor
  · rintro ⟨generation, ⟨hlt, hmem, hlast⟩, rfl⟩
    refine ⟨hmem, rfl, rfl, fun k hk hkmem ↦ hlast k hk ?_ hkmem⟩
    exact h.generation_lt_of_mem hkmem
  · rintro ⟨hmem, rfl, rfl, hlast⟩
    exact ⟨key.session.generation,
      ⟨h.generation_lt_of_mem hmem, hmem, fun k hk _ ↦ hlast k hk⟩, rfl⟩

theorem newestKey?_eq_none_iff (h : s.Coherent) :
    s.newestKey? connection command = none ↔
      ∀ generation, ⟨⟨connection, generation⟩, command⟩ ∉ s.records := by
  rw [h.newestKey?_eq, Option.map_eq_none_iff]
  simp only [List.find?_eq_none, List.mem_reverse, List.mem_range, decide_eq_true_eq]
  constructor
  · intro hnone generation hmem
    exact hnone generation (h.generation_lt_of_mem hmem) hmem
  · intro hnone generation _
    exact hnone generation

/-- A result resolves the newest record of its command if that belongs to the newest generation or
is pending. -/
theorem target?_eq_some_iff (h : s.Coherent) :
    s.target? connection command = some key ↔ s.newestKey? connection command = some key ∧
      (s.generations connection = key.session.generation + 1 ∨ s.isPending key = true) := by
  unfold target?
  cases hkey : s.newestKey? connection command with
  | none => simp
  | some found =>
    obtain ⟨hmem, rfl, -, -⟩ := h.newestKey?_eq_some_iff.mp hkey
    have hpos := h.generation_lt_of_mem hmem
    cases hnewest : s.newestSession? found.session.connection with
    | none =>
      rw [h.newestSession?_eq_none_iff.mp hnewest] at hpos
      omega
    | some x =>
      obtain ⟨-, -, hgenerations⟩ := h.newestSession?_eq_some_iff.mp hnewest
      simp only [Option.some.injEq]
      constructor
      · intro htarget
        split at htarget
        next hor =>
          cases htarget
          exact ⟨rfl, hor.imp_left fun heq ↦ by rw [hgenerations, heq]⟩
        next => cases htarget
      · rintro ⟨rfl, hor⟩
        exact if_pos (hor.imp_left fun heq ↦ by omega)

/-- A command that has a record in the newest generation has it as its target. -/
theorem target?_of_newest (h : s.Coherent) {generation : Nat}
    (hkey : ⟨⟨connection, generation⟩, command⟩ ∈ s.records)
    (hgenerations : s.generations connection = generation + 1) :
    s.target? connection command = some ⟨⟨connection, generation⟩, command⟩ := by
  refine h.target?_eq_some_iff.mpr ⟨h.newestKey?_eq_some_iff.mpr ⟨hkey, rfl, rfl,
    fun newer hlt hthere ↦ ?_⟩, Or.inl hgenerations⟩
  have hbound := h.generation_lt_of_mem hthere
  dsimp only at hbound hlt
  omega

end Coherent

end QueryWatch.Store
