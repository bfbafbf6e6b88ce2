import Mathlib.Data.List.ModifyLast
import QueryWatch.Feed.Basic
import QueryWatch.Proofs.Dashboard.Run
import QueryWatch.Proofs.Feed.Lines

/-!
Histories of a feed. Switches are posted, things happen to the feed, and meanwhile other things
happen to its dashboard (`Action`), in any order. A history is the state after them together with
the switches that were consumed, what the feed told the dashboard, and what each connection has
brought (`History`); it is written by `History.next`, and a switch counts as consumed when it has
left the queue. What can come of one input to a feed is said once, by `Step` (`step_react`), from
which everything about histories is read off.
-/

set_option autoImplicit false

namespace QueryWatch.Feed

open Text (Bytes)

/-! ### What an input leads to -/

/-- Whether the feed reads a connection. -/
def isReading (f : Feed) : Bool :=
  match f.phase with
  | .reading _ => true
  | _ => false

theorem isReading_iff {f : Feed} : f.isReading = true ↔ ∃ lines, f.phase = .reading lines := by
  unfold isReading
  cases f.phase <;> simp

theorem isReading_of_phase {f : Feed} {lines : LineReader} (h : f.phase = .reading lines) :
    f.isReading = true := isReading_iff.mpr ⟨lines, h⟩

theorem isReading_resume (f : Feed) : f.resume.isReading = false := by
  cases henabled : f.enabled <;> simp [resume, isReading, henabled]

theorem isReading_wait (f : Feed) : f.wait.isReading = false := rfl

/-- The feed looks for a switch when it is asked to. -/
def Looks (f : Feed) : Prop := f.phase ≠ .connecting ∧ f.phase ≠ .ended

/-- What an input leads to, and what is told: one case for each thing that can come of it. -/
inductive Step (f : Feed) : FeedInput → Feed → List FeedReport → Prop
  | passed {input : FeedInput} (hconnecting : f.phase = .connecting → input ≠ .attempted true)
      (hreading : f.isReading = true →
        input = .switch ∨ input = .elapsed ∨ ∃ success, input = .attempted success) :
      Step f input f []
  | connected (hphase : f.phase = .connecting) :
      Step f (.attempted true) { f with phase := .reading {}, backoff := f.backoff.reset }
        [.connected true]
  | failed (hphase : f.phase = .connecting) : Step f (.attempted false) f.wait []
  | read {lines : LineReader} (hphase : f.phase = .reading lines) (bytes : Bytes) :
      Step f (.received bytes) { f with phase := .reading (lines.read bytes).2 }
        (told (lines.read bytes).1)
  | paused {lines : LineReader} (hphase : f.phase = .reading lines) :
      Step f .paused { f with phase := .reading lines.pause } []
  | closed {lines : LineReader} (hphase : f.phase = .reading lines) :
      Step f .closed f.wait (told lines.finish.toList ++ [.connected false])
  | broken {lines : LineReader} (hphase : f.phase = .reading lines) :
      Step f .broken f.wait [.connected false]
  | elapsed {delay : Nat} (hphase : f.phase = .waiting delay) : Step f .elapsed f.resume []
  | switchedOff {rest : List FeedSwitch} (hlooks : f.Looks) (hposted : f.posted = .off :: rest) :
      Step f .switch { f with posted := rest, enabled := false }.resume f.parting
  | switchedOn {rest : List FeedSwitch} (hphase : f.phase = .idle)
      (hposted : f.posted = .on :: rest) :
      Step f .switch
        { f with posted := rest, enabled := true, backoff := f.backoff.reset }.resume []
  | retried {delay : Nat} {rest : List FeedSwitch} (hphase : f.phase = .waiting delay)
      (hposted : f.posted = .on :: rest) : Step f .switch { f with posted := rest }.resume []
  | stayed {lines : LineReader} {rest : List FeedSwitch} (hphase : f.phase = .reading lines)
      (hposted : f.posted = .on :: rest) : Step f .switch { f with posted := rest } []
  | ended (hlooks : f.Looks) (hposted : f.posted = []) (habandoned : f.abandoned = true) :
      Step f .switch { f with phase := .ended } f.parting

variable {f after : Feed} {input : FeedInput} {reports : List FeedReport}

/-- A feed that looks for a switch finds one, or ends if none can come, or goes on. -/
theorem obey_of_looks (hlooks : f.Looks) :
    f.obey =
      match f.posted with
      | switch :: rest => { f with posted := rest }.heed switch
      | [] => if f.abandoned then ({ f with phase := .ended }, f.parting) else (f, []) := by
  unfold obey
  obtain ⟨hconnecting, hended⟩ := hlooks
  cases hphase : f.phase with
  | connecting => exact absurd hphase hconnecting
  | ended => exact absurd hphase hended
  | _ => rfl

theorem step_obey (f : Feed) : Step f .switch f.obey.1 f.obey.2 := by
  have hpassed : Step f .switch f [] := .passed (fun _ ↦ nofun) (fun _ ↦ .inl rfl)
  by_cases hlooks : f.Looks
  · rw [obey_of_looks hlooks]
    cases hposted : f.posted with
    | nil =>
      dsimp only
      by_cases habandoned : f.abandoned = true
      · rw [if_pos habandoned]
        simpa only [hposted] using Step.ended hlooks hposted habandoned
      · rw [if_neg habandoned]
        exact hpassed
    | cons switch rest =>
      cases switch with
      | off => exact .switchedOff hlooks hposted
      | on =>
        dsimp only [heed]
        cases hphase : f.phase with
        | idle => exact .switchedOn hphase hposted
        | reading lines => simpa only [hphase] using Step.stayed hphase hposted
        | waiting delay => exact .retried hphase hposted
        | connecting => exact absurd hphase hlooks.1
        | ended => exact absurd hphase hlooks.2
  · have hobey : f.obey = (f, []) := by
      unfold obey
      cases hphase : f.phase with
      | connecting => rfl
      | ended => rfl
      | _ => exact absurd ⟨by simp [hphase], by simp [hphase]⟩ hlooks
    rw [hobey]
    exact hpassed

/-- What a feed makes of an input is one of the cases. -/
theorem step_react (f : Feed) (input : FeedInput) :
    Step f input (f.react input).1 (f.react input).2 := by
  cases input with
  | switch => exact f.step_obey
  | attempted success =>
    unfold react
    cases hphase : f.phase with
    | connecting =>
      cases success with
      | true => exact .connected hphase
      | false => exact .failed hphase
    | _ => exact .passed (by simp [hphase]) fun _ ↦ .inr (.inr ⟨success, rfl⟩)
  | received bytes =>
    unfold react
    cases hphase : f.phase with
    | reading lines => exact .read hphase bytes
    | _ => exact .passed (fun _ ↦ nofun) (by simp [isReading, hphase])
  | paused =>
    unfold react
    cases hphase : f.phase with
    | reading lines => exact .paused hphase
    | _ => exact .passed (fun _ ↦ nofun) (by simp [isReading, hphase])
  | closed =>
    unfold react
    cases hphase : f.phase with
    | reading lines => exact .closed hphase
    | _ => exact .passed (fun _ ↦ nofun) (by simp [isReading, hphase])
  | broken =>
    unfold react
    cases hphase : f.phase with
    | reading lines => exact .broken hphase
    | _ => exact .passed (fun _ ↦ nofun) (by simp [isReading, hphase])
  | elapsed =>
    unfold react
    cases hphase : f.phase with
    | waiting delay => exact .elapsed hphase
    | _ => exact .passed (fun _ ↦ nofun) (fun _ ↦ .inr (.inl rfl))

/-! ### What a connection has brought -/

/-- A connection that the feed has read: its bytes, with `none` where nothing came for a while, and
whether the proxy has closed it. -/
structure Connection where
  marks : List (Option UInt8) := []
  closed : Bool := false

/-- The bytes that a connection has brought. -/
def Connection.bytes (c : Connection) : Bytes := c.marks.reduceOption

/-- The connections of a feed in some phase after an input, in the order in which they were made. -/
def connectionsAfter (connections : List Connection) (phase : FeedPhase) (input : FeedInput) :
    List Connection :=
  match phase, input with
  | .connecting, .attempted true => connections ++ [{}]
  | .reading _, .received bytes =>
    connections.modifyLast fun c ↦ { c with marks := c.marks ++ bytes.map some }
  | .reading _, .paused => connections.modifyLast fun c ↦ { c with marks := c.marks ++ [none] }
  | .reading _, .closed => connections.modifyLast fun c ↦ { c with closed := true }
  | _, _ => connections

/-- Nothing is noted of an input that is passed over. -/
theorem connectionsAfter_of_passed {f : Feed} {input : FeedInput} (connections : List Connection)
    (hconnecting : f.phase = .connecting → input ≠ .attempted true)
    (hreading : f.isReading = true →
      input = .switch ∨ input = .elapsed ∨ ∃ success, input = .attempted success) :
    connectionsAfter connections f.phase input = connections := by
  unfold connectionsAfter
  split
  · exact absurd rfl (hconnecting ‹_›)
  · rename_i hphase
    simp [isReading, hphase] at hreading
  · rename_i hphase
    simp [isReading, hphase] at hreading
  · rename_i hphase
    simp [isReading, hphase] at hreading
  · rfl

/-- A switch is nothing that a connection brings. -/
theorem connectionsAfter_switch (connections : List Connection) (phase : FeedPhase) :
    connectionsAfter connections phase .switch = connections := by
  cases phase <;> rfl

/-! ### Histories -/

/-- What can happen: something to the feed, a switch is posted, nobody can post any more, or
something to the dashboard that does not come from the feed. -/
inductive Action
  | input (input : FeedInput)
  | post (switch : FeedSwitch)
  | abandon
  | meanwhile (operation : Dashboard.Operation)
      (hother : ∀ connected, operation ≠ .connected connected)

/-- A feed and its dashboard, with the switches that have left the queue, what the dashboard was
told and what the connections have brought. -/
structure History where
  feed : Feed
  dashboard : Dashboard
  consumed : List FeedSwitch := []
  reports : List FeedReport := []
  connections : List Connection := []

/-- The text of a line that is told. -/
def text? : FeedReport → Option String
  | .connected _ => none
  | .line text => some text

/-- Whether it is told that the feed is connected. -/
def call? : FeedReport → Option Bool
  | .connected connected => some connected
  | .line _ => none

namespace History

/-- Nothing has happened yet. -/
def start (s : FeedSettings) (settings : DashboardSettings) : History where
  feed := .start s
  dashboard := .ofSettings settings

/-- The history after something happened. -/
def next (h : History) : Action → History
  | .input input =>
    let (feed, dashboard) := h.feed.step h.dashboard input
    { feed
      dashboard
      consumed :=
        h.consumed ++ h.feed.posted.take (h.feed.posted.length - feed.posted.length)
      reports := h.reports ++ (h.feed.react input).2
      connections := connectionsAfter h.connections h.feed.phase input }
  | .post switch => { h with feed := h.feed.post switch }
  | .abandon => { h with feed := h.feed.abandon }
  | .meanwhile operation _ => { h with dashboard := h.dashboard.perform operation }

def run (h : History) (actions : List Action) : History := actions.foldl next h

theorem run_append (h : History) (first second : List Action) :
    h.run (first ++ second) = (h.run first).run second := List.foldl_append

/-- The texts that the dashboard was told, one for each line that says something. -/
def texts (h : History) : List String := h.reports.filterMap text?

/-- What the dashboard was told about the feed being connected. -/
def calls (h : History) : List Bool := h.reports.filterMap call?

end History

theorem filterMap_text?_told (lines : List Bytes) :
    (told lines).filterMap text? = lines.filterMap LineReader.lineText := by
  rw [told, List.filterMap_map]
  exact List.filterMap_some

theorem filterMap_call?_told (lines : List Bytes) : (told lines).filterMap call? = [] := by
  rw [told, List.filterMap_map]
  exact List.filterMap_eq_nil_iff.mpr fun _ _ ↦ rfl

theorem filterMap_text?_parting (f : Feed) : f.parting.filterMap text? = [] := by
  unfold parting
  split <;> rfl

theorem filterMap_call?_parting (f : Feed) :
    f.parting.filterMap call? = if f.isReading = true then [false] else [] := by
  unfold parting isReading
  cases f.phase <;> rfl

end QueryWatch.Feed
