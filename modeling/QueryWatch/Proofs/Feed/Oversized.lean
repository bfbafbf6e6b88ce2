import QueryWatch.Proofs.Feed.Delivery
import QueryWatch.Proofs.Text.Blank
import QueryWatch.Proofs.Text.Utf8

/-!
Lines that are too long. A feed looks how long a line is at a pause and when the proxy closes the
connection, but not when a newline ends the line, and of a line that it gives up at a pause it does
not remember that the rest is still to come. What it hands on of each line is `remains_run`. So a
long line that a newline ends is handed on as a whole if there was no pause in it (`texts_ended`),
and if there was one, what comes behind the pause is handed on as if it were a line (`texts_rest`):
not all that is handed on are lines that are short enough (`not_forall_mem_texts_short`).
-/

set_option autoImplicit false

namespace QueryWatch

open Text (Bytes)

/-! ### Texts on lines -/

namespace LineReader

/-- A line on which a text is written says that text. -/
theorem lineText_encode {text : String} (htrimmed : Text.IsTrimmed text) (hne : text ≠ "") :
    lineText (Text.Utf8.encode text) = some text := by
  rw [lineText, Text.Utf8.decodeLossy_encode, Text.trim_eq_self_iff.mpr htrimmed]
  exact if_neg hne

/-- A letter many times is a text without blanks around it. -/
theorem lineText_replicate (n : Nat) :
    lineText (List.replicate (n + 1) 120) = some (String.ofList (List.replicate (n + 1) 'x')) := by
  have hblank : ∀ c ∈ List.replicate (n + 1) 'x', Text.isBlank c = false := by
    intro c hc
    rw [List.eq_of_mem_replicate hc]
    rfl
  have htrimmed : Text.IsTrimmed (String.ofList (List.replicate (n + 1) 'x')) := by
    rw [Text.IsTrimmed, String.toList_ofList]
    exact ⟨fun c hc ↦ hblank c (List.mem_of_mem_head? hc),
      fun c hc ↦ hblank c (List.mem_of_mem_getLast? hc)⟩
  have hne : String.ofList (List.replicate (n + 1) 'x') ≠ "" := by
    intro hempty
    have hlist := congrArg String.toList hempty
    rw [String.toList_ofList, List.replicate_succ] at hlist
    cases hlist
  rw [← lineText_encode htrimmed hne, Text.Utf8.encode_replicate (by decide)]
  rfl

/-- A byte one time too often. -/
theorem lt_length_replicate (b : UInt8) :
    maxRequestBytes < (List.replicate (maxRequestBytes + 1) b).length := by
  rw [List.length_replicate]
  exact Nat.lt_succ_self _

theorem newline_not_mem_replicate {b : UInt8} (hb : newline ≠ b) {n : Nat} :
    newline ∉ List.replicate n b := fun hmem ↦ hb (List.eq_of_mem_replicate hmem)

end LineReader

namespace Feed.History

open LineReader

/-! ### What is handed on -/

/-- What is handed on of the lines of connections, whatever happens. It is an end of each line: the
whole line if no pause finds it too long, and only the rest behind a pause that does; lines that a
newline ends are handed on however long they are. If no line is too long, all of the texts are
lines. -/
theorem remains_run (s : FeedSettings) (settings : DashboardSettings) (actions : List Action) :
    let h := (start s settings).run actions
    h.texts = h.connections.flatMap Connection.texts ∧
    (∀ c ∈ h.connections,
      (endedLines c.marks ++ [openLine c.marks]).map List.reduceOption = c.bytes.splitOn newline ∧
      ∀ line ∈ endedLines c.marks ++ [openLine c.marks],
        remains line <:+ line.reduceOption ∧
        ((∀ front, front ++ [none] <+: line → front.reduceOption.length ≤ maxRequestBytes) →
          remains line = line.reduceOption) ∧
        ∀ front rest, line = front ++ none :: rest → maxRequestBytes < (remains front).length →
          remains line = remains rest) ∧
    ((∀ c ∈ h.connections, ∀ line ∈ c.bytes.splitOn newline, line.length ≤ maxRequestBytes) →
      ∀ text ∈ h.texts, ∃ c ∈ h.connections, ∃ line ∈ c.bytes.splitOn newline,
        line.length ≤ maxRequestBytes ∧ lineText line = some text) := by
  intro h
  have htexts : h.texts = h.connections.flatMap Connection.texts :=
    (recorded_run s settings actions).texts_eq
  refine ⟨htexts, fun c _ ↦ ⟨?_, fun line _ ↦ ⟨remains_suffix line, remains_of_pauses, ?_⟩⟩, ?_⟩
  · rw [← splitOn_eq, map_reduceOption_splitOn]
    rfl
  · rintro front rest rfl hlong
    exact remains_append_of_lt hlong rest
  · intro hshort text htext
    rw [htexts] at htext
    obtain ⟨c, hc, hmem⟩ := List.mem_flatMap.mp htext
    obtain ⟨line, hline, hkept⟩ := exists_line_of_mem_texts hmem
    have hlength := hshort c hc _ (reduceOption_mem_splitOn hline)
    rw [remains_of_length_le hlength] at hkept
    exact ⟨c, hc, _, reduceOption_mem_splitOn hline, hlength, hkept⟩

/-! ### Long lines that come through -/

section Through

variable {s : FeedSettings} (settings : DashboardSettings) {actions : List Action}

/-- The first connection of a feed that is on from the start. -/
theorem reads_start (hauto : s.autoConnect = true)
    (hactions : ∀ action ∈ actions, action.KeepsReading) :
    ((start s settings).run (.input (.attempted true) :: actions)).Reads []
      (actions.flatMap Action.marks) := by
  have hphase : (start s settings).feed.phase = .connecting := if_pos hauto
  exact (Reads.of_attempted hphase rfl nofun).run hactions

/-- A single line with its newline is handed on as what remains of it. -/
theorem texts_of_line (hauto : s.autoConnect = true)
    (hactions : ∀ action ∈ actions, action.KeepsReading) {line : List (Option UInt8)}
    (hmarks : actions.flatMap Action.marks = line ++ [some newline])
    (hline : some newline ∉ line) :
    let h := (start s settings).run (.input (.attempted true) :: actions)
    h.connections = [⟨line ++ [some newline], false⟩] ∧
      h.texts = (lineText (remains line)).toList := by
  intro h
  have hconnections : h.connections = [⟨line ++ [some newline], false⟩] :=
    hmarks ▸ (reads_start settings hauto hactions).connections_eq
  refine ⟨hconnections, ?_⟩
  rw [(recorded_run s settings _).texts_eq, hconnections, List.flatMap_singleton,
    Connection.texts, kept_of_not_closed, endedLines_of_not_mem hline, List.map_singleton,
    List.filterMap_cons, List.filterMap_nil]
  generalize lineText (remains line) = text
  cases text <;> rfl

/-- A line that a newline ends without a pause is handed on as a whole, however long it is. -/
theorem texts_ended (hauto : s.autoConnect = true) {line : Bytes} (hline : newline ∉ line) :
    let h := (start s settings).run
      [.input (.attempted true), .input (.received (line ++ [newline]))]
    h.connections = [⟨line.map some ++ [some newline], false⟩] ∧
      h.texts = (lineText line).toList := by
  let actions : List Action := [.input (.received (line ++ [newline]))]
  have hactions : ∀ action ∈ actions, action.KeepsReading := by
    simp [actions, Action.KeepsReading]
  have hmarks : actions.flatMap Action.marks = line.map some ++ [some newline] := by
    simp [actions, Action.marks]
  have htexts := texts_of_line settings hauto hactions hmarks (by simpa using hline)
  rwa [remains_map_some] at htexts

theorem bytes_paused (head rest : Bytes) :
    Connection.bytes ⟨head.map some ++ none :: rest.map some ++ [some newline], false⟩ =
      head ++ rest ++ [newline] := by
  rw [Connection.bytes, List.reduceOption_append, List.reduceOption_append,
    List.reduceOption_cons_of_none, reduceOption_map_some, reduceOption_map_some]
  rfl

theorem not_mem_paused {head rest : Bytes} (hhead : newline ∉ head) (hrest : newline ∉ rest) :
    some newline ∉ head.map some ++ none :: rest.map some := by
  simp [hhead, hrest]

/-- What comes behind a pause that finds a line too long is handed on as if it were a line. -/
theorem texts_rest (hauto : s.autoConnect = true) {head rest : Bytes} (hhead : newline ∉ head)
    (hrest : newline ∉ rest) (hlong : maxRequestBytes < head.length) :
    let h := (start s settings).run
      [.input (.attempted true), .input (.received head), .input .paused,
        .input (.received (rest ++ [newline]))]
    h.connections = [⟨head.map some ++ none :: rest.map some ++ [some newline], false⟩] ∧
      h.texts = (lineText rest).toList := by
  let actions : List Action :=
    [.input (.received head), .input .paused, .input (.received (rest ++ [newline]))]
  have hactions : ∀ action ∈ actions, action.KeepsReading := by
    simp [actions, Action.KeepsReading]
  have hmarks : actions.flatMap Action.marks =
      head.map some ++ none :: rest.map some ++ [some newline] := by
    simp [actions, Action.marks]
  have htexts := texts_of_line settings hauto hactions hmarks (not_mem_paused hhead hrest)
  rwa [remains_append_of_lt (by rwa [remains_map_some]), remains_map_some] at htexts

end Through

/-- A line that a pause finds too long, of which only the last byte remains. -/
theorem remains_run_rest :
    let long := List.replicate (maxRequestBytes + 1) (120 : UInt8)
    let rest : Bytes := [98]
    let line := long.map some ++ none :: rest.map some
    ⟨line ++ [some newline], false⟩ ∈ ((start {} {}).run [.input (.attempted true),
      .input (.received long), .input .paused, .input (.received (rest ++ [newline]))]).connections ∧
    line ∈ endedLines (line ++ [some newline]) ∧ maxRequestBytes < long.length ∧
    remains line = rest := by
  intro long rest line
  have hlong : maxRequestBytes < long.length := lt_length_replicate 120
  have hnone : newline ∉ long := newline_not_mem_replicate (by decide)
  have hlast : newline ∉ rest := by decide
  have hc := List.mem_singleton_self (⟨line ++ [some newline], false⟩ : Connection)
  rw [← (texts_rest (s := {}) {} rfl hnone hlast hlong).1] at hc
  have hmem : line ∈ endedLines (line ++ [some newline]) := by
    rw [endedLines_of_not_mem (not_mem_paused hnone hlast)]
    exact List.mem_singleton_self line
  obtain ⟨-, hlines, -⟩ := remains_run {} {} [.input (.attempted true), .input (.received long),
    .input .paused, .input (.received (rest ++ [newline]))]
  have hrest := ((hlines _ hc).2 line (List.mem_append_left _ hmem)).2.2
  refine ⟨hc, hmem, hlong, (hrest _ _ rfl ?_).trans (remains_map_some rest)⟩
  rwa [remains_map_some]

/-- Not every text is a line that is short enough: a long line is handed on, and so is the end of
one. -/
theorem not_forall_mem_texts_short :
    let long := List.replicate (maxRequestBytes + 1) (120 : UInt8)
    ((start {} {}).run [.input (.attempted true), .input (.received (long ++ [newline]))]).texts =
      [String.ofList (List.replicate (maxRequestBytes + 1) 'x')] ∧
    ((start {} {}).run [.input (.attempted true), .input (.received long), .input .paused,
      .input (.received (Text.Utf8.encode "b" ++ [newline]))]).texts = ["b"] ∧
    ¬∀ (s : FeedSettings) (settings : DashboardSettings) (actions : List Action),
      let h := (start s settings).run actions
      ∀ text ∈ h.texts, ∃ c ∈ h.connections, ∃ line ∈ c.bytes.splitOn newline,
        line.length ≤ maxRequestBytes ∧ lineText line = some text := by
  intro long
  have hlong : maxRequestBytes < long.length := lt_length_replicate 120
  have hnone : newline ∉ long := newline_not_mem_replicate (by decide)
  have hlast : newline ∉ Text.Utf8.encode "b" := by decide
  have hwhole := (texts_ended (s := {}) {} rfl hnone).2
  obtain ⟨hconnections, htexts⟩ := texts_rest (s := {}) {} rfl hnone hlast hlong
  have hb : lineText (Text.Utf8.encode "b") = some "b" := by decide
  rw [lineText_replicate] at hwhole
  rw [hb, Option.toList_some] at htexts
  refine ⟨hwhole, htexts, fun hall ↦ ?_⟩
  have hmem := List.mem_singleton_self "b"
  rw [← htexts] at hmem
  obtain ⟨c, hc, line, hline, hshort, htext⟩ := hall {} {} _ "b" hmem
  rw [hconnections] at hc
  have hbytes : c.bytes = long ++ Text.Utf8.encode "b" ++ [newline] := by
    rw [List.mem_singleton.mp hc, bytes_paused]
  have hopen : newline ∉ long ++ Text.Utf8.encode "b" :=
    fun hmem ↦ (List.mem_append.mp hmem).elim hnone hlast
  rw [hbytes, List.splitOn_append_cons_self, List.splitOn_eq_singleton hopen,
    List.splitOn_nil] at hline
  -- The only line that is short enough is the empty one behind the newline.
  obtain rfl | rfl := List.mem_pair.mp hline
  · rw [List.length_append] at hshort
    omega
  · cases htext

end Feed.History
end QueryWatch
