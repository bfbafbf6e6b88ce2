import QueryWatch.Proofs.Dashboard.Messages
import QueryWatch.Proofs.Store.Alike

/-!
What people do at a dashboard does not disturb what is observed. Whatever is neither a message nor
the clearing of the dashboard changes the history at most in how its records are shown
(`alike_perform`), and a message has the same outcome in dashboards whose histories are alike, and
leaves them alike (`receive_alike`). So a run can be thinned out to its messages and clearings:
these have the same outcomes, and the history at the end is the same but for how its records are
shown (`alike_run_filter`). The other way round, no message changes what people set at the dashboard
(`receive_keeps`). `undisturbed_run` says both of every run.
-/

set_option autoImplicit false

namespace QueryWatch.Dashboard

variable {d t : Dashboard}

/-- The message that an operation brings: an event, or what a text or a value is decoded to. -/
def Operation.message? : Operation → Option (Except Refusal Event)
  | event e => some (.ok e)
  | text raw => some (Event.decodeText raw)
  | value j => some (Event.decode j)
  | _ => none

/-- Whether an operation brings a message or clears the dashboard. -/
def Operation.concernsHistory : Operation → Bool
  | clear => true
  | operation => operation.message?.isSome

/-- What is answered to an operation that brings a message. -/
def answer? (d : Dashboard) : Operation → Option (Except MessageError EventEffect)
  | .event e => some ((d.apply e).1.mapError .failed)
  | .text raw => some (d.receiveText raw).1
  | .value j => some (d.receiveValue j).1
  | _ => none

/-- What is answered to the messages of a run, one after the other. -/
def answers (d : Dashboard) : List Operation → List (Except MessageError EventEffect)
  | [] => []
  | operation :: rest => (d.answer? operation).toList ++ (d.perform operation).answers rest

theorem answer?_eq (d : Dashboard) (operation : Operation) :
    d.answer? operation = operation.message?.map fun decoded ↦ (d.receive decoded).1 := by
  cases operation <;> rfl

theorem perform_of_message? {operation : Operation} {decoded : Except Refusal Event}
    (hmessage : operation.message? = some decoded) :
    d.perform operation = (d.receive decoded).2 := by
  cases operation with
  | event e => rw [← Option.some.inj hmessage]; rfl
  | text raw => rw [← Option.some.inj hmessage]; rfl
  | value j => rw [← Option.some.inj hmessage]; rfl
  | _ => exact absurd hmessage nofun

theorem Operation.concernsHistory_cases {operation : Operation}
    (hconcerns : operation.concernsHistory = true) :
    operation = .clear ∨ ∃ decoded, operation.message? = some decoded := by
  by_cases hclear : operation = .clear
  · exact Or.inl hclear
  · right
    rw [← Option.isSome_iff_exists, ← hconcerns]
    cases operation <;> first | rfl | exact absurd rfl hclear

/-! ### Messages -/

/-- What is answered to an event is what the history makes of it. -/
theorem receive_fst (d : Dashboard) (e : Event) :
    (d.receive (.ok e)).1 = (d.store.apply e).1.mapError .failed := by
  unfold receive apply
  dsimp only
  cases (d.store.apply e).1 with
  | error failure => rfl
  | ok outcome =>
    dsimp only
    cases outcome.opened <;> rfl

/-- A message has the same outcome where the histories are alike, and leaves them alike. -/
theorem receive_alike (hd : d.store.Coherent) (ht : t.store.Coherent) (h : d.store.Alike t.store)
    (decoded : Except Refusal Event) : (t.receive decoded).1 = (d.receive decoded).1 ∧
      (d.receive decoded).2.store.Alike (t.receive decoded).2.store := by
  cases decoded with
  | error refusal => exact ⟨rfl, h⟩
  | ok e =>
    obtain ⟨houtcome, halike⟩ := hd.apply_alike ht h e
    rw [receive_fst, receive_fst, houtcome, store_receive, store_receive]
    exact ⟨rfl, halike⟩

/-- A message leaves what people set at the dashboard as it is, and shows the records that there are
as before. -/
theorem receive_keeps (hd : d.store.Coherent) (decoded : Except Refusal Event) :
    let after := (d.receive decoded).2
    after.filter = d.filter ∧ after.connected = d.connected ∧ after.expandAll = d.expandAll ∧
      after.lastExecution = d.lastExecution ∧
      ∀ key r, d.store.record? key = some r →
        ∃ r', after.store.record? key = some r' ∧ r'.expanded = r.expanded := by
  cases decoded with
  | error refusal => exact ⟨rfl, rfl, rfl, rfl, fun key r hr ↦ ⟨r, hr, rfl⟩⟩
  | ok e =>
    obtain ⟨outcome, -, hreceive⟩ := exists_receive_ok hd e
    rw [hreceive]
    refine ⟨rfl, rfl, rfl, rfl, fun key r hr ↦ ?_⟩
    rcases (hd.step_receive e).record_cases hr with hsame | ⟨result, -, -, hresolved⟩
    · exact ⟨r, hsame, rfl⟩
    · exact ⟨_, hresolved, rfl⟩

/-! ### Everything else -/

/-- What is neither a message nor the clearing of the dashboard changes the history at most in how
its records are shown. -/
theorem alike_perform {operation : Operation} (hother : operation.concernsHistory = false) :
    d.store.Alike (d.perform operation).store := by
  cases operation with
  | event e => cases hother
  | text raw => cases hother
  | value j => cases hother
  | clear => cases hother
  | toggleAll =>
    show d.store.Alike (d.store.perform (.expandAll !d.expandAll))
    exact Store.perform_of_isShowing rfl
  | toggle connection command =>
    rw [perform, store_toggle]
    exact Store.perform_of_isShowing rfl
  | executeRecorded connection command now =>
    rw [store_executeRecorded]
    exact Store.Alike.refl _
  | connected connected => exact Store.Alike.refl _
  | filterChanged text now => exact Store.Alike.refl _
  | tick now => exact Store.Alike.refl _
  | commitFilter => exact Store.Alike.refl _
  | select connection => exact Store.Alike.refl _
  | execute request now => exact Store.Alike.refl _
  | equip executor steering => exact Store.Alike.refl _

theorem coherent_perform (hd : d.store.Coherent) (operation : Operation) :
    (d.perform operation).store.Coherent :=
  coherent_run hd [operation]

/-- A message or the clearing of the dashboard comes to the same where the histories are alike. -/
theorem perform_alike (hd : d.store.Coherent) (ht : t.store.Coherent) (h : d.store.Alike t.store)
    {operation : Operation} (hconcerns : operation.concernsHistory = true) :
    t.answer? operation = d.answer? operation ∧
      (d.perform operation).store.Alike (t.perform operation).store := by
  rcases Operation.concernsHistory_cases hconcerns with rfl | ⟨decoded, hmessage⟩
  · exact ⟨rfl, h.reset⟩
  · obtain ⟨houtcome, halike⟩ := receive_alike hd ht h decoded
    rw [answer?_eq, answer?_eq, hmessage, Option.map_some, Option.map_some, houtcome,
      perform_of_message? hmessage, perform_of_message? hmessage]
    exact ⟨rfl, halike⟩

/-! ### Runs -/

/-- Of a run only the messages and the clearings matter, for what is answered to the messages and
for the history at the end. -/
theorem alike_run_filter (hd : d.store.Coherent) (ht : t.store.Coherent)
    (h : d.store.Alike t.store) (operations : List Operation) :
    t.answers (operations.filter (·.concernsHistory)) = d.answers operations ∧
      (d.run operations).store.Alike (t.run (operations.filter (·.concernsHistory))).store := by
  induction operations generalizing d t with
  | nil => exact ⟨rfl, h⟩
  | cons operation rest ih =>
    by_cases hconcerns : operation.concernsHistory = true
    · obtain ⟨hanswer, halike⟩ := perform_alike hd ht h hconcerns
      obtain ⟨hanswers, hrun⟩ :=
        ih (coherent_perform hd operation) (coherent_perform ht operation) halike
      rw [List.filter_cons_of_pos hconcerns, answers, answers, hanswer, hanswers]
      exact ⟨rfl, hrun⟩
    · have hother : operation.concernsHistory = false := eq_false_of_ne_true hconcerns
      have hnone : d.answer? operation = none := by
        cases operation <;> first | rfl | cases hother
      obtain ⟨hanswers, hrun⟩ :=
        ih (coherent_perform hd operation) ht ((alike_perform hother).symm.trans h)
      rw [List.filter_cons_of_neg hconcerns, answers, hnone, hanswers]
      exact ⟨rfl, hrun⟩

/-- What people do does not disturb what is observed, and the other way round. In every run, when
all is left out but the messages and the clearings of the dashboard, the same is answered to each
message, and at the end there are the same sessions, the same records but for how they are shown,
the same results that wait, the same number of the latest event and the same counts. And in every
dashboard that a run reaches, no message changes the filter, whether the feed is connected, whether
all is shown in full, what was executed last, or how a record that is there is shown. -/
theorem undisturbed_run (settings : DashboardSettings) (operations : List Operation) :
    let start := ofSettings settings
    let kept := operations.filter (·.concernsHistory)
    let d := start.run operations
    let alone := start.run kept
    start.answers kept = start.answers operations ∧
      alone.store.sessions = d.store.sessions ∧
      (∀ key, alone.store.content? key = d.store.content? key) ∧
      alone.store.orphans = d.store.orphans ∧
      alone.store.lastNumber = d.store.lastNumber ∧
      alone.store.counts = d.store.counts ∧
      ∀ (operation : Operation) (decoded : Except Refusal Event),
        operation.message? = some decoded →
        let after := d.perform operation
        after.filter = d.filter ∧ after.connected = d.connected ∧
          after.expandAll = d.expandAll ∧ after.lastExecution = d.lastExecution ∧
          ∀ key r, d.store.record? key = some r →
            ∃ r', after.store.record? key = some r' ∧ r'.expanded = r.expanded := by
  intro start kept d alone
  have hstart : start.store.Coherent := Store.coherent_empty _
  have hd : d.store.Coherent := coherent_run hstart operations
  obtain ⟨hanswers, halike⟩ :=
    alike_run_filter hstart hstart (Store.Alike.refl start.store) operations
  refine ⟨hanswers, ?_, halike.content, ?_, ?_, ?_, ?_⟩
  · rw [halike.rest]
  · rw [halike.rest]
  · rw [halike.rest]
  · rw [halike.rest]
  · intro operation decoded hmessage
    rw [perform_of_message? hmessage]
    exact receive_keeps hd decoded

/-- A query is shown in full, and executed without an executor, before its result comes. -/
example :
    let query : Operation := .event (.issued ⟨"1", 7, none, "SELECT 7", [], true⟩)
    let result : Operation := .event (.result ⟨"1", 7, .ok, none, 3⟩)
    let start := ofSettings {}
    start.answers [query, .toggle "1" 7, .executeRecorded "1" 7 ⟨0, 0⟩, result] =
      start.answers [query, result] := by
  decide

end QueryWatch.Dashboard
