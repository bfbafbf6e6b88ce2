import Mathlib.Data.List.Induction
import Mathlib.Data.List.ReduceOption
import QueryWatch.Feed.Lines

/-!
The lines of a connection with pauses. A connection brings bytes, and at times nothing for a while,
which is marked by `none`. Some of its lines have ended (`endedLines`), and behind the last newline
one is open (`openLine`). At a pause a line that has grown too long is given up, so that of a line
with pauses in it only what comes later remains (`remains`). That is an end of the line
(`remains_suffix`), and all of it if no pause finds too much (`remains_of_pauses`), in particular if
the line is not too long (`remains_of_length_le`). A reader that takes a connection piece by piece
gives what remains of its lines as they end, and has unfinished what remains of the open one
(`StandsBehind.read`, `StandsBehind.pause`, `StandsBehind.finish_eq`).
-/

set_option autoImplicit false

namespace QueryWatch.LineReader

open Text (Bytes)

/-! ### Parts between separators -/

section Parts

variable {α : Type} [BEq α] [LawfulBEq α] {separator : α} {xs : List α}
  {parts : List (List α)} {last : List α}

theorem splitOn_concat_self (h : xs.splitOn separator = parts ++ [last]) :
    (xs ++ [separator]).splitOn separator = parts ++ [last] ++ [[]] := by
  rw [List.splitOn_append_cons_self, h, List.splitOn_nil]

theorem splitOn_concat_of_ne (h : xs.splitOn separator = parts ++ [last]) {x : α}
    (hx : x ≠ separator) : (xs ++ [x]).splitOn separator = parts ++ [last ++ [x]] := by
  induction xs generalizing parts last with
  | nil =>
    have hparts : [] ++ [[]] = parts ++ [last] := h
    obtain ⟨rfl, hlast⟩ := List.append_inj' hparts rfl
    cases hlast
    simp [List.splitOn_cons_eq_if_modifyHead, hx]
  | cons y ys ih =>
    obtain ⟨parts', last', hys⟩ := (List.eq_nil_or_concat' (ys.splitOn separator)).resolve_left
      (List.splitOn_ne_nil _ _)
    rw [List.splitOn_cons_eq_if_modifyHead, hys] at h
    rw [List.cons_append, List.splitOn_cons_eq_if_modifyHead, ih hys]
    by_cases hy : (y == separator) = true
    · rw [if_pos hy, ← List.cons_append] at h
      rw [if_pos hy]
      obtain ⟨rfl, hlast⟩ := List.append_inj' h rfl
      cases hlast
      rfl
    · rw [if_neg hy] at h
      rw [if_neg hy]
      -- The element goes to the first part, which is also the last one if there is no other.
      cases parts' with
      | nil =>
        have hparts : [] ++ [y :: last'] = parts ++ [last] := h
        obtain ⟨rfl, hlast⟩ := List.append_inj' hparts rfl
        cases hlast
        rfl
      | cons part parts' =>
        have hparts : ((y :: part) :: parts') ++ [last'] = parts ++ [last] := h
        obtain ⟨rfl, hlast⟩ := List.append_inj' hparts rfl
        cases hlast
        rfl

end Parts

/-! ### Lines with pauses -/

variable {marks line : List (Option UInt8)} {r : LineReader}

/-- The lines that have ended in what a connection has brought. -/
def endedLines (marks : List (Option UInt8)) : List (List (Option UInt8)) :=
  (marks.splitOn (some newline)).dropLast

/-- The line that has not ended in what a connection has brought. -/
def openLine (marks : List (Option UInt8)) : List (Option UInt8) :=
  (marks.splitOn (some newline)).getLastD []

theorem splitOn_eq (marks : List (Option UInt8)) :
    marks.splitOn (some newline) = endedLines marks ++ [openLine marks] := by
  have hne := List.splitOn_ne_nil (some newline) marks
  rw [endedLines, openLine, List.getLastD_eq_getLast?, List.getLast?_eq_some_getLast hne,
    Option.getD_some, List.dropLast_concat_getLast]

theorem endedLines_of_splitOn {parts : List (List (Option UInt8))}
    (h : marks.splitOn (some newline) = parts ++ [line]) : endedLines marks = parts := by
  rw [endedLines, h, List.dropLast_concat]

theorem openLine_of_splitOn {parts : List (List (Option UInt8))}
    (h : marks.splitOn (some newline) = parts ++ [line]) : openLine marks = line := by
  rw [openLine, h, List.getLastD_concat]

/-- A single line that has ended. -/
theorem endedLines_of_not_mem (hline : some newline ∉ line) :
    endedLines (line ++ [some newline]) = [line] := by
  have hsplit : (line ++ [some newline]).splitOn (some newline) = [line] ++ [[]] := by
    rw [List.splitOn_append_cons_self, List.splitOn_eq_singleton hline, List.splitOn_nil]
  exact endedLines_of_splitOn hsplit

/-- The lines of a connection, without its pauses, are those of its bytes. -/
theorem map_reduceOption_splitOn (marks : List (Option UInt8)) :
    (marks.splitOn (some newline)).map List.reduceOption =
      marks.reduceOption.splitOn newline := by
  induction marks using List.reverseRecOn with
  | nil => rfl
  | append_singleton marks mark ih =>
    have hmarks := splitOn_eq marks
    rw [hmarks, List.map_append, List.map_singleton] at ih
    rw [List.reduceOption_append]
    by_cases hmark : mark = some newline
    · rw [hmark, splitOn_concat_self hmarks]
      rw [List.map_append, List.map_append]
      exact (splitOn_concat_self ih.symm).symm
    · rw [splitOn_concat_of_ne hmarks hmark, List.map_append, List.map_singleton,
        List.reduceOption_append]
      cases mark with
      | none => simpa using ih
      | some b => exact (splitOn_concat_of_ne ih.symm fun h ↦ hmark (congrArg some h)).symm

/-! ### What remains of a line -/

/-- What is kept of a line as it goes on. At a pause it is given up if it is too long. -/
def keep (kept : Bytes) : Option UInt8 → Bytes
  | some b => kept ++ [b]
  | none => if maxRequestBytes < kept.length then [] else kept

/-- What remains of a line with pauses in it. -/
def remains (line : List (Option UInt8)) : Bytes := line.foldl keep []

theorem remains_concat (line : List (Option UInt8)) (mark : Option UInt8) :
    remains (line ++ [mark]) = keep (remains line) mark := by
  rw [remains, List.foldl_append]
  rfl

/-- A line that is given up at a pause starts anew. -/
theorem remains_append_of_lt (h : maxRequestBytes < (remains line).length)
    (rest : List (Option UInt8)) : remains (line ++ none :: rest) = remains rest := by
  rw [remains, List.foldl_append, List.foldl_cons]
  change rest.foldl keep (keep (remains line) none) = _
  rw [keep, if_pos h]
  rfl

/-- An end of the line remains. -/
theorem remains_suffix (line : List (Option UInt8)) : remains line <:+ line.reduceOption := by
  induction line using List.reverseRecOn with
  | nil => exact List.suffix_refl _
  | append_singleton line mark ih =>
    rw [remains_concat, List.reduceOption_append]
    cases mark with
    | some b => exact List.suffix_concat_iff.mpr (.inr ⟨_, rfl, ih⟩)
    | none =>
      simp only [keep, List.reduceOption_singleton, Option.toList_none, List.append_nil]
      split_ifs
      · exact List.nil_suffix
      · exact ih

/-- All of a line remains if no pause finds it too long. -/
theorem remains_of_pauses (h : ∀ front, front ++ [none] <+: line →
    front.reduceOption.length ≤ maxRequestBytes) : remains line = line.reduceOption := by
  induction line using List.reverseRecOn with
  | nil => rfl
  | append_singleton line mark ih =>
    have hline := ih fun front hfront ↦ h front (hfront.trans (List.prefix_append _ _))
    rw [remains_concat, List.reduceOption_append, hline]
    cases mark with
    | some b => rfl
    | none =>
      rw [keep, if_neg (Nat.not_lt.mpr (h line (List.prefix_refl _)))]
      simp

theorem remains_of_length_le (h : line.reduceOption.length ≤ maxRequestBytes) :
    remains line = line.reduceOption := by
  refine remains_of_pauses fun front hfront ↦ ?_
  obtain ⟨rest, rfl⟩ := hfront
  rw [List.append_assoc, List.reduceOption_append, List.length_append] at h
  omega

theorem reduceOption_map_some (line : Bytes) : (line.map some).reduceOption = line := by
  rw [List.reduceOption, List.filterMap_map]
  exact List.filterMap_some

theorem remains_map_some (line : Bytes) : remains (line.map some) = line := by
  refine (remains_of_pauses fun front hfront ↦ ?_).trans (reduceOption_map_some line)
  exact absurd (hfront.mem List.mem_concat_self) (by simp)

/-! ### Readers -/

theorem readOnto_eq (done : List Bytes) (unfinished bytes : Bytes) :
    readOnto done unfinished bytes =
      ((readOnto [] unfinished bytes).1 ++ done, (readOnto [] unfinished bytes).2) := by
  induction bytes generalizing done unfinished with
  | nil => rfl
  | cons b rest ih =>
    rw [readOnto, readOnto]
    by_cases hb : b = newline
    · rw [if_pos hb, if_pos hb, ih, ih [unfinished.reverse], List.append_assoc]
      rfl
    · rw [if_neg hb, if_neg hb, ih]

theorem read_nil (r : LineReader) : r.read [] = ([], r) := rfl

/-- A newline ends the line that is unfinished. -/
theorem read_newline (r : LineReader) (rest : Bytes) :
    r.read (newline :: rest) =
      (r.unfinished.reverse :: (({} : LineReader).read rest).1,
        (({} : LineReader).read rest).2) := by
  unfold read
  rw [readOnto, if_pos rfl, readOnto_eq]
  simp

/-- Any other byte is put to the line that is unfinished. -/
theorem read_of_ne (r : LineReader) {b : UInt8} (hb : b ≠ newline) (rest : Bytes) :
    r.read (b :: rest) = (⟨b :: r.unfinished⟩ : LineReader).read rest := by
  unfold read
  rw [readOnto, if_neg hb]

/-- A reader has unfinished what remains of the open line of a connection. -/
def StandsBehind (r : LineReader) (marks : List (Option UInt8)) : Prop :=
  r.unfinished.reverse = remains (openLine marks)

theorem standsBehind_nil : StandsBehind {} [] := rfl

/-- A reader gives what remains of the lines that end among the bytes it reads. -/
theorem StandsBehind.read (h : r.StandsBehind marks) (bytes : Bytes) :
    (r.read bytes).2.StandsBehind (marks ++ bytes.map some) ∧
      (endedLines (marks ++ bytes.map some)).map remains =
        (endedLines marks).map remains ++ (r.read bytes).1 := by
  induction bytes generalizing r marks with
  | nil => simpa [read_nil] using h
  | cons b rest ih =>
    have hmarks := splitOn_eq marks
    rw [List.map_cons, List.append_cons]
    by_cases hb : b = newline
    · have hnext := splitOn_concat_self hmarks
      have hstands : StandsBehind {} (marks ++ [some newline]) := by
        rw [StandsBehind, openLine_of_splitOn hnext]
        rfl
      obtain ⟨hbehind, hended⟩ := ih hstands
      rw [hb, read_newline]
      refine ⟨hbehind, hended.trans ?_⟩
      rw [endedLines_of_splitOn hnext, List.map_append, List.map_singleton, ← h]
      simp
    · have hnext := splitOn_concat_of_ne hmarks fun heq ↦ hb (Option.some.inj heq)
      have hstands : StandsBehind ⟨b :: r.unfinished⟩ (marks ++ [some b]) := by
        rw [StandsBehind, openLine_of_splitOn hnext, remains_concat, ← h]
        simp [keep]
      obtain ⟨hbehind, hended⟩ := ih hstands
      rw [read_of_ne r hb]
      refine ⟨hbehind, hended.trans ?_⟩
      rw [endedLines_of_splitOn hnext]

/-- A reader gives up what is too long at a pause, and no line ends. -/
theorem StandsBehind.pause (h : r.StandsBehind marks) :
    r.pause.StandsBehind (marks ++ [none]) ∧ endedLines (marks ++ [none]) = endedLines marks := by
  have hnext := splitOn_concat_of_ne (splitOn_eq marks) (Option.some_ne_none newline).symm
  have hlength : (remains (openLine marks)).length = r.unfinished.length := by
    rw [← h, List.length_reverse]
  refine ⟨?_, endedLines_of_splitOn hnext⟩
  rw [StandsBehind, openLine_of_splitOn hnext, remains_concat, keep, hlength, LineReader.pause,
    isTooLong]
  by_cases hlong : maxRequestBytes < r.unfinished.length
  · rw [if_pos (decide_eq_true hlong), if_pos hlong]
    rfl
  · rw [if_neg (by simpa using hlong), if_neg hlong]
    exact h

theorem StandsBehind.finish_eq (h : r.StandsBehind marks) :
    r.finish = if maxRequestBytes < (remains (openLine marks)).length then none
      else some (remains (openLine marks)) := by
  rw [finish, isTooLong, ← h, List.length_reverse]
  simp

end QueryWatch.LineReader
