import Mathlib.Data.List.DropRight
import QueryWatch.Daemon.Basic

/-!
The filter texts that come to count. What has happened to a filter is kept as its `history`, with
what each operation said. The text that is pending is then the last one that was given since the
last commit (`survivor?`), and the one that counts is the last one that was given before it
(`committed?`); that is what `Recalls` says, it is kept by every operation (`Recalls.perform`), and
so it holds along every run, in whatever order the times come (`survivor_run`). A text that another
one has replaced is therefore never committed.
-/

set_option autoImplicit false

namespace QueryWatch.FilterInput

/-- What can happen to a filter while it is typed. -/
inductive Operation
  | changed (text : String) (now : Instant)
  | commitDue (now : Instant)
  | commit
  deriving DecidableEq, Repr

/-- Whether an operation commits a text, and the filter after it. -/
def perform (f : FilterInput) : Operation → Bool × FilterInput
  | .changed text now => (false, f.changed text now)
  | .commitDue now => f.commitDue now
  | .commit => f.commit

def run (f : FilterInput) (operations : List Operation) : FilterInput :=
  operations.foldl (fun f operation ↦ (f.perform operation).2) f

/-! ### What has happened -/

/-- An operation that took place, and whether it committed a text. -/
structure Past where
  operation : Operation
  committed : Bool
  deriving DecidableEq, Repr

/-- A text that was given, and when. -/
structure Given where
  text : String
  since : Instant
  deriving DecidableEq, Repr

def Operation.given? : Operation → Option Given
  | changed text now => some ⟨text, now⟩
  | commitDue _ => none
  | commit => none

/-- The operations of a run with what each of them said. -/
def history (f : FilterInput) : List Operation → List Past
  | [] => []
  | operation :: rest =>
    ⟨operation, (f.perform operation).1⟩ :: (f.perform operation).2.history rest

/-- The texts that were given, in order. -/
def givens (past : List Past) : List Given := past.filterMap (·.operation.given?)

/-- What has happened since the last commit. -/
def sinceCommit (past : List Past) : List Past := past.rtakeWhile (!·.committed)

/-- What had happened up to the last commit, with the commit. -/
def upToCommit (past : List Past) : List Past := past.rdropWhile (!·.committed)

/-- The last text that was given since the last commit. -/
def survivor? (past : List Past) : Option Given := (givens (sinceCommit past)).getLast?

/-- The last text that was given before the last commit. -/
def committed? (past : List Past) : Option Given := (givens (upToCommit past)).getLast?

variable {f : FilterInput} {operation : Operation} {past : List Past} {given : Given}

theorem run_concat (f : FilterInput) (operations : List Operation) (operation : Operation) :
    f.run (operations ++ [operation]) = ((f.run operations).perform operation).2 :=
  List.foldl_concat ..

theorem history_concat (f : FilterInput) (operations : List Operation) (operation : Operation) :
    f.history (operations ++ [operation]) =
      f.history operations ++ [⟨operation, ((f.run operations).perform operation).1⟩] := by
  induction operations generalizing f with
  | nil => rfl
  | cons first operations ih =>
    rw [List.cons_append, history, ih]
    rfl

theorem givens_concat (past : List Past) (last : Past) :
    givens (past ++ [last]) = givens past ++ last.operation.given?.toList := by
  rw [givens, List.filterMap_append, givens]
  cases h : last.operation.given? <;> simp [h]

/-- The text that survives is the last one of all that were given. -/
theorem getLast?_givens_of_survivor? (h : survivor? past = some given) :
    (givens past).getLast? = some given := by
  have hsplit : givens past = givens (upToCommit past) ++ givens (sinceCommit past) := by
    rw [givens, givens, givens, ← List.filterMap_append, upToCommit, sinceCommit,
      List.rdropWhile_append_rtakeWhile]
  have hlast : (givens (sinceCommit past)).getLast? = some given := h
  rw [hsplit, List.getLast?_append, hlast, Option.some_or]

/-- A text survives if behind it there was no other one, and no commit. -/
theorem exists_of_survivor? (h : survivor? past = some given) :
    ∃ before after, past = before ++ ⟨.changed given.text given.since, false⟩ :: after ∧
      ∀ later ∈ after, later.operation.given? = none ∧ later.committed = false := by
  have hquiet : ∀ p ∈ sinceCommit past, p.committed = false := fun p hp ↦ by
    simpa using List.mem_rtakeWhile_imp hp
  have hsplit : past = upToCommit past ++ sinceCommit past :=
    (List.rdropWhile_append_rtakeWhile ..).symm
  obtain ⟨earlier, hgivens⟩ := List.getLast?_eq_some_iff.mp h
  obtain ⟨front, back, hsince, -, hback⟩ := List.filterMap_eq_append_iff.mp hgivens
  obtain ⟨middle, ⟨operation, committed⟩, after, rfl, -, hgiven, hafter⟩ :=
    List.filterMap_eq_cons_iff.mp hback
  rw [hsince] at hquiet
  have hoperation : operation = .changed given.text given.since := by
    cases operation with
    | changed text now =>
      cases hgiven
      rfl
    | commitDue now => cases hgiven
    | commit => cases hgiven
  have hcommitted : committed = false := hquiet ⟨operation, committed⟩ (by simp)
  subst hoperation hcommitted
  refine ⟨upToCommit past ++ front ++ middle, after, ?_, fun later hlater ↦ ⟨?_, ?_⟩⟩
  · calc past = upToCommit past ++ sinceCommit past := hsplit
      _ = _ := by rw [hsince]; simp
  · exact List.filterMap_eq_nil_iff.mp hafter later hlater
  · exact hquiet later (by simp [hlater])

/-! ### One operation -/

/-- An operation gives a text, commits the one that is pending, or does nothing. -/
theorem perform_cases (f : FilterInput) (operation : Operation) :
    (∃ text now, operation = .changed text now ∧
      f.perform operation = (false, { f with pending := some ⟨text, now + f.delay⟩ })) ∨
    (∃ draft, f.pending = some draft ∧ operation.given? = none ∧
      f.perform operation =
        (true, { f with applied := ⟨draft.text⟩, pending := none, commits := f.commits + 1 })) ∨
    operation.given? = none ∧ f.perform operation = (false, f) := by
  cases operation with
  | changed text now => exact Or.inl ⟨text, now, rfl, rfl⟩
  | commitDue now =>
    unfold perform FilterInput.commitDue FilterInput.commit
    cases hpending : f.pending with
    | none => exact Or.inr (Or.inr ⟨rfl, rfl⟩)
    | some draft =>
      by_cases hdue : draft.deadline ≤ now
      · exact Or.inr (Or.inl ⟨draft, rfl, rfl, if_pos hdue⟩)
      · exact Or.inr (Or.inr ⟨rfl, if_neg hdue⟩)
  | commit =>
    unfold perform FilterInput.commit
    cases hpending : f.pending with
    | none => exact Or.inr (Or.inr ⟨rfl, rfl⟩)
    | some draft => exact Or.inr (Or.inl ⟨draft, rfl, rfl, rfl⟩)

/-- A text that is pending is committed once its time has come. -/
theorem commitDue_fst_iff {now : Instant} :
    (f.commitDue now).1 = true ↔ ∃ draft, f.pending = some draft ∧ draft.deadline ≤ now := by
  unfold FilterInput.commitDue FilterInput.commit
  cases hpending : f.pending with
  | none => simp
  | some draft =>
    by_cases hdue : draft.deadline ≤ now
    · simp [hdue]
    · simp [hdue]

theorem commit_fst (f : FilterInput) : f.commit.1 = f.pending.isSome := by
  unfold FilterInput.commit
  cases f.pending <;> rfl

/-- What a filter is, in terms of what has happened to it. -/
structure Recalls (f : FilterInput) (delay : Nat) (past : List Past) : Prop where
  delay_eq : f.delay = delay
  pending : f.pending = (survivor? past).map fun given ↦ ⟨given.text, given.since + delay⟩
  applied : f.applied = ((committed? past).map fun given ↦ ⟨given.text⟩).getD {}
  commits : f.commits = past.countP (·.committed)
  /-- Every text that was given was committed, is pending, or was replaced. -/
  commits_le : f.commits + f.pending.toList.length ≤ (givens past).length

theorem recalls_start (delay : Nat) : Recalls { delay } delay [] :=
  ⟨rfl, rfl, rfl, rfl, Nat.zero_le _⟩

theorem Recalls.perform {delay : Nat} (h : f.Recalls delay past) (operation : Operation) :
    (f.perform operation).2.Recalls delay (past ++ [⟨operation, (f.perform operation).1⟩]) := by
  have hbound := h.commits_le
  rcases f.perform_cases operation with
    ⟨text, now, rfl, heq⟩ | ⟨draft, hpending, hgiven, heq⟩ | ⟨hgiven, heq⟩
  · rw [heq]
    refine ⟨h.delay_eq, ?_, ?_, ?_, ?_⟩
    · rw [survivor?, sinceCommit, List.rtakeWhile_concat_pos _ _ _ rfl, givens_concat, h.delay_eq]
      simp [Operation.given?]
    · rw [committed?, upToCommit, List.rdropWhile_concat_pos _ _ _ rfl]
      exact h.applied
    · rw [List.countP_append]
      exact h.commits
    · rw [givens_concat, List.length_append]
      exact Nat.add_le_add (Nat.le_trans (Nat.le_add_right _ _) hbound) (Nat.le_refl 1)
  · rw [heq]
    -- The text that is pending is the last one given since the last commit, so the last of all.
    obtain ⟨given, hsurvivor, rfl⟩ := Option.map_eq_some_iff.mp (h.pending.symm.trans hpending)
    have hlast := getLast?_givens_of_survivor? hsurvivor
    refine ⟨h.delay_eq, ?_, ?_, ?_, ?_⟩
    · rw [survivor?, sinceCommit, List.rtakeWhile_concat_neg _ _ _ (by simp)]
      rfl
    · rw [committed?, upToCommit, List.rdropWhile_concat_neg _ _ _ (by simp), givens_concat, hgiven,
        Option.toList_none, List.append_nil, hlast]
      rfl
    · rw [List.countP_append, ← h.commits]
      rfl
    · show f.commits + 1 ≤ _
      rw [givens_concat, hgiven, Option.toList_none, List.append_nil]
      rw [hpending] at hbound
      exact hbound
  · rw [heq]
    refine ⟨h.delay_eq, ?_, ?_, ?_, ?_⟩
    · rw [survivor?, sinceCommit, List.rtakeWhile_concat_pos _ _ _ rfl, givens_concat, hgiven,
        Option.toList_none, List.append_nil]
      exact h.pending
    · rw [committed?, upToCommit, List.rdropWhile_concat_pos _ _ _ rfl]
      exact h.applied
    · rw [List.countP_append]
      exact h.commits
    · rw [givens_concat, hgiven, Option.toList_none, List.append_nil]
      exact hbound

/-! ### Runs -/

/-- At the end of every run a filter recalls what has happened. -/
theorem recalls_run (delay : Nat) (operations : List Operation) :
    (run { delay } operations).Recalls delay (history { delay } operations) := by
  induction operations using List.reverseRecOn with
  | nil => exact recalls_start delay
  | append_singleton operations operation ih =>
    rw [run_concat, history_concat]
    exact ih.perform operation

/-- A filter text that is to count at once counts, whatever was pending. -/
theorem answer_immediate (d : Daemon) {id : Option String} {params : Option Json} {text : String}
    (hparams : Params.parse Params.readFilter .setFilter params = .ok ⟨text, true⟩) (now : Moment) :
    (d.answer ⟨protocolVersion, .setFilter, id, params⟩ now).daemon.dashboard.filter =
      { d.dashboard.filter with
        applied := ⟨text⟩, pending := none, commits := d.dashboard.filter.commits + 1 } := by
  have hanswer : d.answer ⟨protocolVersion, .setFilter, id, params⟩ now =
      d.answerFilter id ⟨text, true⟩ now.instant := by
    rw [Daemon.answer, if_pos rfl]
    unfold Daemon.perform
    dsimp only
    rw [hparams]
    rfl
  rw [hanswer]
  rfl

/-- After every run of a filter, at whatever times: what is pending is the last text that was given
since the last commit, until that long after it was given; nothing is pending if there is none. The
text is committed by the first look at or behind that time, and at once where that is asked. A
commit makes it count and leaves nothing pending; behind it there was no other text, and no commit.
Nothing else changes what counts, so that this is the last text given before the last commit;
commits are counted, and there are at most as many as texts. A filter that a daemon is given to
count at once counts, and leaves nothing pending. -/
theorem survivor_run (delay : Nat) (operations : List Operation) :
    let f := run { delay } operations
    let past := history { delay } operations
    f.pending = (survivor? past).map (fun given ↦ ⟨given.text, given.since + delay⟩) ∧
      (∀ now, (f.commitDue now).1 = true ↔
        ∃ given, survivor? past = some given ∧ given.since + delay ≤ now) ∧
      (f.commit.1 = true ↔ ∃ given, survivor? past = some given) ∧
      (∀ operation, (f.perform operation).1 = true → ∃ given before after,
        survivor? past = some given ∧
        past = before ++ ⟨.changed given.text given.since, false⟩ :: after ∧
        (∀ later ∈ after, later.operation.given? = none ∧ later.committed = false) ∧
        (f.perform operation).2.applied = ⟨given.text⟩ ∧
        (f.perform operation).2.pending = none) ∧
      (∀ operation, (f.perform operation).1 = false →
        (f.perform operation).2.applied = f.applied) ∧
      f.applied = ((committed? past).map fun given ↦ ⟨given.text⟩).getD {} ∧
      f.commits = past.countP (·.committed) ∧
      f.commits ≤ (givens past).length ∧
      ∀ (d : Daemon) (id : Option String) (params : Option Json) (text : String) (now : Moment),
        Params.parse Params.readFilter .setFilter params = .ok ⟨text, true⟩ →
        let after :=
          (d.answer ⟨protocolVersion, .setFilter, id, params⟩ now).daemon.dashboard.filter
        after.applied = ⟨text⟩ ∧ after.pending = none := by
  intro f past
  have h : f.Recalls delay past := recalls_run delay operations
  refine ⟨h.pending, fun now ↦ ?_, ?_, fun operation hcommits ↦ ?_, fun operation hnot ↦ ?_,
    h.applied, h.commits, Nat.le_trans (Nat.le_add_right _ _) h.commits_le,
    fun d id params text now hparams ↦ ?_⟩
  · rw [commitDue_fst_iff, h.pending]
    simp
  · rw [commit_fst, h.pending, Option.isSome_map, Option.isSome_iff_exists]
  · rcases f.perform_cases operation with
      ⟨text, now, rfl, heq⟩ | ⟨draft, hpending, -, heq⟩ | ⟨-, heq⟩
    · rw [heq] at hcommits
      cases hcommits
    · obtain ⟨given, hsurvivor, rfl⟩ := Option.map_eq_some_iff.mp (h.pending.symm.trans hpending)
      obtain ⟨before, after, hpast, hquiet⟩ := exists_of_survivor? hsurvivor
      refine ⟨given, before, after, hsurvivor, hpast, hquiet, ?_, ?_⟩
      · rw [heq]
      · rw [heq]
    · rw [heq] at hcommits
      cases hcommits
  · rcases f.perform_cases operation with
      ⟨text, now, rfl, heq⟩ | ⟨draft, -, -, heq⟩ | ⟨-, heq⟩
    · rw [heq]
    · rw [heq] at hnot
      cases hnot
    · rw [heq]
  · rw [answer_immediate d hparams now]
    exact ⟨rfl, rfl⟩

/-- "b" takes the place of "a" at an earlier time, is not committed one nanosecond too early, and
counts while "c" is pending. A daemon with this filter is then given "d" to count at once. -/
theorem survivor_run_replaced :
    let operations : List Operation := [.changed "a" 100, .changed "b" 50, .commitDue 549,
      .commitDue 550, .changed "c" 600]
    let f := run { delay := 500 } operations
    let d : Daemon := ⟨{ Dashboard.ofSettings {} with filter := f }, ⟨0, 0⟩, 1⟩
    let params : Json := .object [("immediate", .bool true), ("text", .string "d")]
    (history { delay := 500 } operations).map (·.committed) = [false, false, false, true, false] ∧
      f.pending = some ⟨"c", 1100⟩ ∧ f.applied = ⟨"b"⟩ ∧ f.commits = 1 ∧
      Params.parse Params.readFilter .setFilter (some params) = .ok ⟨"d", true⟩ ∧
      let after :=
        (d.answer ⟨protocolVersion, .setFilter, none, params⟩ ⟨0, ⟨0, 0⟩⟩).daemon.dashboard.filter
      after.applied = ⟨"d"⟩ ∧ after.pending = none := by
  intro operations f d params
  obtain ⟨hpending, -, -, -, -, happlied, hcommits, -, himmediate⟩ := survivor_run 500 operations
  have hparams : Params.parse Params.readFilter .setFilter (some params) = .ok ⟨"d", true⟩ := rfl
  exact ⟨by decide, hpending, happlied, hcommits, hparams,
    himmediate d none params "d" ⟨0, ⟨0, 0⟩⟩ hparams⟩

end QueryWatch.FilterInput
