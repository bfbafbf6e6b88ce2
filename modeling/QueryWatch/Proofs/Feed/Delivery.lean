import QueryWatch.Proofs.Feed.History

/-!
What a feed hands on of its connections. At every moment the texts that the dashboard was told are
those of the connections, one after the other, and while the feed reads, its reader has unfinished
what remains of the open line of the last one (`Recorded.step`, `History.recorded_run`). As long as
nothing makes the feed let go of a connection, all that comes is added to that one, whatever pauses
and switches come in between (`History.Reads.run`). So a connection that the proxy closes is handed
on line by line, and no line holds bytes of two connections (`History.texts_run`).
-/

set_option autoImplicit false

namespace QueryWatch.Feed

open Text (Bytes)
open LineReader

/-! ### Texts of a connection -/

/-- What is handed on of a connection: what remains of its lines, and of the open line if the proxy
closes the connection and it is not too long. -/
def Connection.kept (c : Connection) : List Bytes :=
  (endedLines c.marks).map remains ++
    if c.closed = true ∧ (remains (openLine c.marks)).length ≤ maxRequestBytes then
      [remains (openLine c.marks)]
    else []

/-- The texts of a connection. -/
def Connection.texts (c : Connection) : List String := c.kept.filterMap lineText

theorem kept_of_not_closed (marks : List (Option UInt8)) :
    Connection.kept ⟨marks, false⟩ = (endedLines marks).map remains := by
  rw [Connection.kept, if_neg (by simp), List.append_nil]

theorem kept_of_closed {lines : LineReader} {marks : List (Option UInt8)}
    (h : lines.StandsBehind marks) :
    Connection.kept ⟨marks, true⟩ = (endedLines marks).map remains ++ lines.finish.toList := by
  rw [Connection.kept, h.finish_eq]
  by_cases hlong : maxRequestBytes < (remains (openLine marks)).length
  · rw [if_pos hlong, if_neg (by simpa using hlong)]
    rfl
  · rw [if_neg hlong, if_pos ⟨rfl, Nat.not_lt.mp hlong⟩]
    rfl

/-- The pieces between the newlines of a connection, each read as a text and trimmed, without the
blank ones. -/
def pieceTexts (bytes : Bytes) : List String :=
  ((bytes.splitOn newline).map fun line ↦ Text.trim (Text.Utf8.decodeLossy line)).filter (· ≠ "")

theorem filterMap_lineText (lines : List Bytes) :
    lines.filterMap lineText =
      (lines.map fun line ↦ Text.trim (Text.Utf8.decodeLossy line)).filter (· ≠ "") := by
  rw [← List.filterMap_eq_filter, List.filterMap_map]
  refine List.filterMap_congr fun line _ ↦ ?_
  simp [lineText, Option.guard]

/-- A connection that the proxy has closed is handed on piece by piece if none is too long. -/
theorem texts_of_closed {marks : List (Option UInt8)}
    (hlines : ∀ line ∈ marks.reduceOption.splitOn newline, line.length ≤ maxRequestBytes) :
    Connection.texts ⟨marks, true⟩ = pieceTexts marks.reduceOption := by
  rw [← map_reduceOption_splitOn, splitOn_eq, List.forall_mem_map] at hlines
  have hremains : ∀ line ∈ endedLines marks ++ [openLine marks],
      remains line = line.reduceOption := fun line hline ↦ remains_of_length_le (hlines line hline)
  have hopen := hremains _ List.mem_concat_self
  have hkept : Connection.kept ⟨marks, true⟩ = marks.reduceOption.splitOn newline := by
    rw [← map_reduceOption_splitOn, splitOn_eq, ← List.map_congr_left hremains, List.map_append,
      Connection.kept, if_pos ⟨rfl, hopen ▸ hlines _ List.mem_concat_self⟩]
    rfl
  rw [Connection.texts, hkept, filterMap_lineText, pieceTexts]

theorem reduceOption_mem_splitOn {c : Connection} {line : List (Option UInt8)}
    (h : line ∈ c.marks.splitOn (some newline)) : line.reduceOption ∈ c.bytes.splitOn newline := by
  rw [Connection.bytes, ← map_reduceOption_splitOn]
  exact List.mem_map_of_mem h

/-- What is handed on of a connection is what remains of one of its lines. -/
theorem exists_line_of_mem_texts {c : Connection} {text : String} (h : text ∈ c.texts) :
    ∃ line ∈ c.marks.splitOn (some newline), lineText (remains line) = some text := by
  obtain ⟨kept, hkept, htext⟩ := List.mem_filterMap.mp h
  have hmem : kept ∈ (c.marks.splitOn (some newline)).map remains := by
    rw [splitOn_eq, List.map_append]
    refine List.mem_append.mpr ((List.mem_append.mp hkept).imp_right fun hlast ↦ ?_)
    split_ifs at hlast
    · exact hlast
    · cases hlast
  obtain ⟨line, hline, rfl⟩ := List.mem_map.mp hmem
  exact ⟨line, hline, htext⟩

/-! ### What a feed hands on -/

variable {f after : Feed} {input : FeedInput} {reports : List FeedReport}
  {connections : List Connection} {texts : List String}

/-- The texts that were told are those of the connections, and a feed that reads has unfinished what
remains of the open line of the last one. -/
structure Recorded (f : Feed) (connections : List Connection) (texts : List String) : Prop where
  texts_eq : texts = connections.flatMap Connection.texts
  standsBehind : ∀ lines, f.phase = .reading lines →
    ∃ earlier marks, connections = earlier ++ [⟨marks, false⟩] ∧ lines.StandsBehind marks

/-- A feed that does not read any more, and has told no text, has nothing unfinished. -/
theorem Recorded.left (h : Recorded f connections texts) (hafter : after.isReading = false)
    (hreports : reports.filterMap text? = []) :
    Recorded after connections (texts ++ reports.filterMap text?) := by
  rw [hreports, List.append_nil]
  exact ⟨h.texts_eq, fun lines hphase ↦ by simp [isReading, hphase] at hafter⟩

/-- What the last connection brings is handed on. -/
theorem flatMap_texts_concat {earlier : List Connection} {c d : Connection} {lines : List Bytes}
    (h : d.kept = c.kept ++ lines) :
    (earlier ++ [d]).flatMap Connection.texts =
      (earlier ++ [c]).flatMap Connection.texts ++ lines.filterMap lineText := by
  simp [List.flatMap_append, Connection.texts, h]

theorem Recorded.step (h : Recorded f connections texts) (hstep : Step f input after reports) :
    Recorded after (connectionsAfter connections f.phase input)
      (texts ++ reports.filterMap text?) := by
  cases hstep with
  | passed hconnecting hreading =>
    rw [connectionsAfter_of_passed connections hconnecting hreading]
    simpa using h
  | connected hphase =>
    rw [hphase]
    refine ⟨?_, ?_⟩
    · change texts ++ [] = (connections ++ [({} : Connection)]).flatMap Connection.texts
      rw [h.texts_eq, List.flatMap_append]
      rfl
    · rintro _ ⟨⟩
      exact ⟨connections, [], rfl, standsBehind_nil⟩
  | read hphase bytes =>
    obtain ⟨earlier, marks, rfl, hstands⟩ := h.standsBehind _ hphase
    obtain ⟨hbehind, hended⟩ := hstands.read bytes
    rw [hphase, connectionsAfter, List.modifyLast_concat]
    refine ⟨?_, ?_⟩
    · rw [h.texts_eq, filterMap_text?_told]
      refine (flatMap_texts_concat ?_).symm
      rw [kept_of_not_closed, kept_of_not_closed, hended]
    · rintro _ ⟨⟩
      exact ⟨earlier, _, rfl, hbehind⟩
  | paused hphase =>
    obtain ⟨earlier, marks, rfl, hstands⟩ := h.standsBehind _ hphase
    obtain ⟨hbehind, hended⟩ := hstands.pause
    have hkept : Connection.kept ⟨marks ++ [none], false⟩ =
        Connection.kept ⟨marks, false⟩ ++ [] := by
      rw [kept_of_not_closed, kept_of_not_closed, hended, List.append_nil]
    rw [hphase, connectionsAfter, List.modifyLast_concat]
    refine ⟨?_, ?_⟩
    · rw [h.texts_eq]
      exact (flatMap_texts_concat hkept).symm
    · rintro _ ⟨⟩
      exact ⟨earlier, _, rfl, hbehind⟩
  | closed hphase =>
    obtain ⟨earlier, marks, rfl, hstands⟩ := h.standsBehind _ hphase
    rw [hphase, connectionsAfter, List.modifyLast_concat, List.filterMap_append,
      filterMap_text?_told]
    refine ⟨?_, fun lines hreading ↦ ?_⟩
    · rw [h.texts_eq]
      show _ ++ (_ ++ []) = _
      rw [List.append_nil]
      refine (flatMap_texts_concat ?_).symm
      rw [kept_of_closed hstands, kept_of_not_closed]
    · cases hreading
  | failed hphase =>
    rw [hphase]
    exact h.left f.isReading_wait rfl
  | broken hphase =>
    rw [hphase]
    exact h.left f.isReading_wait rfl
  | elapsed hphase =>
    rw [hphase]
    exact h.left f.isReading_resume rfl
  | switchedOff hlooks hposted =>
    rw [connectionsAfter_switch]
    exact h.left (isReading_resume _) f.filterMap_text?_parting
  | switchedOn hphase hposted =>
    rw [connectionsAfter_switch]
    exact h.left (isReading_resume _) rfl
  | retried hphase hposted =>
    rw [connectionsAfter_switch]
    exact h.left (isReading_resume _) rfl
  | stayed hphase hposted =>
    rw [connectionsAfter_switch]
    exact ⟨by simpa using h.texts_eq, h.standsBehind⟩
  | ended hlooks hposted habandoned =>
    rw [connectionsAfter_switch]
    exact h.left rfl f.filterMap_text?_parting

/-! ### Along a history -/

namespace History

variable {h : History} {earlier : List Connection} {marks : List (Option UInt8)}

theorem recorded_next (h : History) (hrecorded : Recorded h.feed h.connections h.texts)
    (action : Action) :
    Recorded (h.next action).feed (h.next action).connections (h.next action).texts := by
  cases action with
  | input input =>
    have hstep := hrecorded.step (h.feed.step_react input)
    rwa [texts, ← List.filterMap_append] at hstep
  | post switch => exact ⟨hrecorded.texts_eq, hrecorded.standsBehind⟩
  | abandon => exact ⟨hrecorded.texts_eq, hrecorded.standsBehind⟩
  | meanwhile operation hother => exact hrecorded

theorem recorded_run (s : FeedSettings) (settings : DashboardSettings) (actions : List Action) :
    let h := (start s settings).run actions
    Recorded h.feed h.connections h.texts := by
  induction actions using List.reverseRecOn with
  | nil =>
    refine ⟨rfl, fun lines hphase ↦ ?_⟩
    have hreading : (Feed.start s).isReading = false := isReading_resume _
    rw [isReading, show (Feed.start s).phase = .reading lines from hphase] at hreading
    cases hreading
  | append_singleton actions action ih =>
    rw [run_append]
    exact recorded_next _ ih action

end History

/-! ### One connection -/

/-- What an action adds to the connection that the feed reads. -/
def Action.marks : Action → List (Option UInt8)
  | .input (.received bytes) => bytes.map some
  | .input .paused => [none]
  | _ => []

/-- The bytes that an action brings. -/
def Action.received : Action → Bytes
  | .input (.received bytes) => bytes
  | _ => []

/-- The bytes that come in the course of actions. -/
def received (actions : List Action) : Bytes := actions.flatMap Action.received

theorem Action.reduceOption_marks (action : Action) :
    action.marks.reduceOption = action.received := by
  cases action with
  | input input =>
    cases input with
    | received bytes => exact reduceOption_map_some bytes
    | _ => rfl
  | _ => rfl

theorem reduceOption_flatMap_marks (actions : List Action) :
    (actions.flatMap Action.marks).reduceOption = received actions := by
  induction actions with
  | nil => rfl
  | cons action actions ih =>
    rw [List.flatMap_cons, List.reduceOption_append, action.reduceOption_marks, ih]
    rfl

/-- An action that lets a feed go on reading: the connection does not end, it is not switched off,
and there is somebody who can post. -/
def Action.KeepsReading : Action → Prop
  | .input input => input ≠ .closed ∧ input ≠ .broken
  | .post switch => switch = .on
  | .abandon => False
  | .meanwhile _ _ => True

/-- A feed reads a connection, its last one, and nothing that it could find posted makes it stop. -/
structure History.Reads (h : History) (earlier : List Connection)
    (marks : List (Option UInt8)) : Prop where
  reading : ∃ lines, h.feed.phase = .reading lines
  not_abandoned : h.feed.abandoned = false
  posted : ∀ switch ∈ h.feed.posted, switch = .on
  connections_eq : h.connections = earlier ++ [⟨marks, false⟩]

namespace History.Reads

variable {h : History} {earlier : List Connection} {marks : List (Option UInt8)}

/-- The start of a connection. -/
theorem of_attempted (hphase : h.feed.phase = .connecting) (habandoned : h.feed.abandoned = false)
    (hposted : ∀ switch ∈ h.feed.posted, switch = .on) :
    (h.next (.input (.attempted true))).Reads h.connections [] := by
  have hreact : h.feed.react (.attempted true) =
      ({ h.feed with phase := .reading {}, backoff := h.feed.backoff.reset },
        [.connected true]) := by
    unfold react
    rw [hphase]
  have hfeed : (h.next (.input (.attempted true))).feed =
      { h.feed with phase := .reading {}, backoff := h.feed.backoff.reset } :=
    congrArg Prod.fst hreact
  refine ⟨⟨{}, by rw [hfeed]⟩, by rw [hfeed, habandoned], by rwa [hfeed], ?_⟩
  change connectionsAfter h.connections h.feed.phase (.attempted true) = _
  rw [hphase]
  rfl

/-- Of what an input can lead to, only reading on is left. -/
theorem next_input (hreads : h.Reads earlier marks) {input : FeedInput} (hclosed : input ≠ .closed)
    (hbroken : input ≠ .broken) :
    (h.next (.input input)).Reads earlier (marks ++ Action.marks (.input input)) := by
  obtain ⟨⟨lines, hlines⟩, habandoned, hposted, hconnections⟩ := hreads
  suffices ∀ after reports, Step h.feed input after reports →
      (∃ lines, after.phase = .reading lines) ∧ after.abandoned = false ∧
        (∀ switch ∈ after.posted, switch = .on) ∧
          connectionsAfter h.connections h.feed.phase input =
            earlier ++ [⟨marks ++ Action.marks (.input input), false⟩] by
    obtain ⟨hreading, habandoned, hposted, hconnections⟩ := this _ _ (h.feed.step_react input)
    exact ⟨hreading, habandoned, hposted, hconnections⟩
  intro after reports hstep
  rw [hconnections]
  cases hstep with
  | passed hconnecting hpassed =>
    refine ⟨⟨lines, hlines⟩, habandoned, hposted, ?_⟩
    rw [connectionsAfter_of_passed _ hconnecting hpassed]
    obtain rfl | rfl | ⟨success, rfl⟩ := hpassed (isReading_of_phase hlines) <;>
      simp [Action.marks]
  | read hphase bytes =>
    refine ⟨⟨_, rfl⟩, habandoned, hposted, ?_⟩
    rw [hphase, connectionsAfter, List.modifyLast_concat]
    rfl
  | paused hphase =>
    refine ⟨⟨_, rfl⟩, habandoned, hposted, ?_⟩
    rw [hphase, connectionsAfter, List.modifyLast_concat]
    rfl
  | stayed hphase hnext =>
    rw [hnext, List.forall_mem_cons] at hposted
    refine ⟨⟨lines, hlines⟩, habandoned, hposted.2, ?_⟩
    rw [connectionsAfter_switch]
    simp [Action.marks]
  | closed => exact absurd rfl hclosed
  | broken => exact absurd rfl hbroken
  | connected hphase => cases hlines.symm.trans hphase
  | failed hphase => cases hlines.symm.trans hphase
  | elapsed hphase => cases hlines.symm.trans hphase
  | switchedOn hphase => cases hlines.symm.trans hphase
  | retried hphase => cases hlines.symm.trans hphase
  | switchedOff _ hnext =>
    rw [hnext, List.forall_mem_cons] at hposted
    cases hposted.1
  | ended _ _ hgone => cases habandoned.symm.trans hgone

theorem next (hreads : h.Reads earlier marks) {action : Action} (haction : action.KeepsReading) :
    (h.next action).Reads earlier (marks ++ action.marks) := by
  cases action with
  | input input => exact hreads.next_input haction.1 haction.2
  | post switch =>
    obtain ⟨hreading, habandoned, hposted, hconnections⟩ := hreads
    refine ⟨hreading, habandoned, ?_, hconnections.trans (by simp [Action.marks])⟩
    exact List.forall_mem_append.mpr ⟨hposted, List.forall_mem_singleton.mpr haction⟩
  | abandon => exact haction.elim
  | meanwhile operation hother =>
    obtain ⟨hreading, habandoned, hposted, hconnections⟩ := hreads
    exact ⟨hreading, habandoned, hposted, hconnections.trans (by simp [Action.marks])⟩

theorem run {actions : List Action} (hreads : h.Reads earlier marks)
    (hactions : ∀ action ∈ actions, action.KeepsReading) :
    (h.run actions).Reads earlier (marks ++ actions.flatMap Action.marks) := by
  induction actions generalizing h marks with
  | nil => simpa [History.run] using hreads
  | cons action actions ih =>
    obtain ⟨haction, hrest⟩ := List.forall_mem_cons.mp hactions
    rw [List.flatMap_cons, ← List.append_assoc]
    exact ih (hreads.next haction) hrest

/-- The end of a connection. -/
theorem connections_closed (hreads : h.Reads earlier marks) :
    (h.next (.input .closed)).connections = earlier ++ [⟨marks, true⟩] := by
  obtain ⟨⟨lines, hlines⟩, -, -, hconnections⟩ := hreads
  change connectionsAfter h.connections h.feed.phase .closed = _
  rw [hconnections, hlines, connectionsAfter, List.modifyLast_concat]

end History.Reads

/-- A feed delivers the lines of a connection, however they come: each piece between newlines once
and in its order, if none is too long, the connection is not given up and the proxy closes it.
Whatever happens, each text comes from a line of one connection, and the texts of the connections
follow each other as the connections do. -/
theorem History.texts_run (s : FeedSettings) (settings : DashboardSettings) (before : List Action) :
    let h := (start s settings).run before
    (∃ parts : List (List String), parts.flatten = h.texts ∧
      List.Forall₂ (fun (c : Connection) part ↦ ∀ text ∈ part, ∃ line ∈ c.bytes.splitOn newline,
        ∃ kept, kept <:+ line ∧ lineText kept = some text) h.connections parts) ∧
    ∀ during : List Action, h.feed.phase = .connecting → h.feed.abandoned = false →
      (∀ switch ∈ h.feed.posted, switch = .on) → (∀ action ∈ during, action.KeepsReading) →
      (∀ line ∈ (received during).splitOn newline, line.length ≤ maxRequestBytes) →
      (h.run (.input (.attempted true) :: (during ++ [.input .closed]))).texts =
        h.texts ++ pieceTexts (received during) := by
  intro h
  have hrecorded : Recorded h.feed h.connections h.texts := recorded_run s settings before
  refine ⟨⟨h.connections.map Connection.texts, hrecorded.texts_eq.symm, ?_⟩, ?_⟩
  · rw [List.forall₂_map_right_iff, List.forall₂_same]
    intro c _ text htext
    obtain ⟨line, hline, hkept⟩ := exists_line_of_mem_texts htext
    exact ⟨_, reduceOption_mem_splitOn hline, _, remains_suffix line, hkept⟩
  · intro during hphase habandoned hposted hduring hlines
    have hreads := (Reads.of_attempted hphase habandoned hposted).run hduring
    have hafter := recorded_run s settings
      (before ++ .input (.attempted true) :: (during ++ [.input .closed]))
    rw [run_append] at hafter
    rw [hafter.texts_eq, run, List.foldl_cons, List.foldl_append]
    change List.flatMap _ (History.connections (next (run (next h _) during) (.input .closed))) = _
    rw [← reduceOption_flatMap_marks] at hlines ⊢
    rw [hreads.connections_closed, List.flatMap_append, ← hrecorded.texts_eq, List.nil_append,
      List.flatMap_singleton, texts_of_closed hlines]

/-- A line that comes in two parts, with a pause and a switch between them, then a blank one, and
one that the end of the connection ends. -/
theorem History.texts_run_cut :
    let during : List Action :=
      [.input (.received (Text.Utf8.encode "a\nb")), .input .paused, .post .on, .input .switch,
        .input (.received (Text.Utf8.encode "c\n \n d"))]
    (∀ action ∈ during, action.KeepsReading) ∧
    ((start {} {}).run (.input (.attempted true) :: (during ++ [.input .closed]))).texts =
      ["a", "bc", "d"] := by
  intro during
  have hduring : ∀ action ∈ during, action.KeepsReading := by
    simp [during, Action.KeepsReading]
  have hreceived : received during = Text.Utf8.encode "a\nbc\n \n d" := by decide
  have hlines : ∀ line ∈ (received during).splitOn newline, line.length ≤ maxRequestBytes := by
    rw [hreceived]
    decide
  refine ⟨hduring, ((texts_run {} {} []).2 during rfl rfl nofun hduring hlines).trans ?_⟩
  rw [hreceived]
  decide

end QueryWatch.Feed
