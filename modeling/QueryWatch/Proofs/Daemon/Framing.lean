import Mathlib.Algebra.BigOperators.Group.List.Basic
import QueryWatch.Proofs.Protocol.RequestLine

/-!
What a connection brings does not depend on how its bytes come. They are collected up to the end of
the piece with the first newline, or refused behind a piece that makes them too many
(`collect_cases`). So bytes that are not too many are read up to their first newline however they
are cut (`requestOf_of_length_le`), and too many of them are refused if no newline comes early
enough (`requestOf_of_no_newline`). In between it depends on the pieces, but full pieces end where
the limit does, so that an early newline is seen in time (`requestOf_of_full`). Bytes that the
daemon cuts by itself are such pieces (`isCut_pieces`, `requestOf_pieces`).
-/

set_option autoImplicit false

namespace QueryWatch.Framing

open Text (Bytes)

/-! ### Lines -/

/-- Nothing that comes behind a newline is on the first line. -/
theorem firstLine_append_of_mem {front : Bytes} (hfront : newline ∈ front) (rest : Bytes) :
    firstLine (front ++ rest) = firstLine front := by
  induction front with
  | nil => cases hfront
  | cons b front ih =>
    rw [List.cons_append, firstLine, firstLine, List.takeWhile_cons, List.takeWhile_cons]
    by_cases hb : b = newline
    · rw [hb]
      rfl
    · have hmem : newline ∈ front := (List.mem_cons.mp hfront).resolve_left fun h ↦ hb h.symm
      rw [if_pos (bne_iff_ne.mpr hb), if_pos (bne_iff_ne.mpr hb)]
      exact congrArg (b :: ·) (ih hmem)

theorem parse_eq_of_firstLine_eq {bytes other : Bytes} (h : firstLine bytes = firstLine other) :
    parse bytes = parse other := by
  rw [parse, parse, h]

/-! ### Collecting -/

/-- Bytes are collected up to the end of a piece with a newline or of all pieces, or refused behind
a piece that makes them too many, in front of which there was no newline. -/
theorem collect_cases {size : Nat} (hsize : size ≤ maxRequestBytes) (read pieces : List Bytes) :
    (∃ front rest, pieces = front ++ rest ∧ (rest = [] ∨ newline ∈ front.flatten) ∧
      size + front.flatten.length ≤ maxRequestBytes ∧
      collect size read pieces = .ok (read.reverse.flatten ++ front.flatten)) ∨
    (∃ front piece rest, pieces = front ++ piece :: rest ∧ newline ∉ front.flatten ∧
      maxRequestBytes < size + front.flatten.length + piece.length ∧
      collect size read pieces = .error .tooLarge) := by
  induction pieces generalizing size read with
  | nil => exact .inl ⟨[], [], rfl, .inl rfl, hsize, by simp [collect]⟩
  | cons piece pieces ih =>
    rw [collect]
    by_cases hlarge : maxRequestBytes < size + piece.length
    · rw [if_pos hlarge]
      exact .inr ⟨[], piece, pieces, rfl, by simp, by simpa using hlarge, rfl⟩
    · rw [if_neg hlarge]
      by_cases hmem : newline ∈ piece
      · rw [if_pos (List.contains_iff_mem.mpr hmem)]
        exact .inl ⟨[piece], pieces, rfl, .inr (by simpa using hmem), by simpa using hlarge,
          by simp⟩
      · rw [if_neg (by rwa [List.contains_iff_mem])]
        rcases ih (Nat.not_lt.mp hlarge) (piece :: read) with
          ⟨front, rest, rfl, hend, hfits, heq⟩ | ⟨front, large, rest, rfl, hnone, hexceeds, heq⟩
        · refine .inl ⟨piece :: front, rest, rfl, hend.imp_right fun h ↦ ?_, ?_, ?_⟩
          · exact List.mem_append_right _ h
          · rw [List.flatten_cons, List.length_append]
            omega
          · rw [heq]
            simp
        · refine .inr ⟨piece :: front, large, rest, rfl, ?_, ?_, heq⟩
          · rw [List.flatten_cons, List.mem_append]
            exact not_or.mpr ⟨hmem, hnone⟩
          · rw [List.flatten_cons, List.length_append]
            omega

/-- What a connection brings is the request on the first line of all its bytes, or they are refused
behind a piece that makes them too many. -/
theorem requestOf_cases (pieces : List Bytes) :
    requestOf pieces = parse pieces.flatten ∧ (pieces.flatten.length ≤ maxRequestBytes ∨
      newline ∈ pieces.flatten.take maxRequestBytes) ∨
    (∃ front piece rest, pieces = front ++ piece :: rest ∧ newline ∉ front.flatten ∧
      maxRequestBytes < front.flatten.length + piece.length ∧
      requestOf pieces = .error .tooLarge) := by
  rcases collect_cases (Nat.zero_le _) [] pieces with
    ⟨front, rest, rfl, hend, hfits, heq⟩ | ⟨front, piece, rest, rfl, hnone, hexceeds, heq⟩
  · have hparse : requestOf (front ++ rest) = parse front.flatten := by
      rw [requestOf, heq]
      rfl
    rw [Nat.zero_add] at hfits
    rcases hend with rfl | hmem
    · rw [List.append_nil] at hparse ⊢
      exact .inl ⟨hparse, .inl hfits⟩
    · rw [List.flatten_append]
      refine .inl ⟨?_, .inr ?_⟩
      · rw [hparse]
        exact parse_eq_of_firstLine_eq (firstLine_append_of_mem hmem _).symm
      · rw [List.take_append, List.take_of_length_le hfits]
        exact List.mem_append_left _ hmem
  · rw [Nat.zero_add] at hexceeds
    refine .inr ⟨front, piece, rest, rfl, hnone, hexceeds, ?_⟩
    rw [requestOf, heq]

/-- Bytes that are not too many are read up to their first newline. -/
theorem requestOf_of_length_le {pieces : List Bytes}
    (hsize : pieces.flatten.length ≤ maxRequestBytes) :
    requestOf pieces = parse pieces.flatten := by
  rcases requestOf_cases pieces with ⟨heq, -⟩ | ⟨front, piece, rest, rfl, -, hexceeds, -⟩
  · exact heq
  · simp only [List.flatten_append, List.flatten_cons, List.length_append] at hsize
    omega

/-- Too many bytes are refused if no newline is among the first ones. -/
theorem requestOf_of_no_newline {pieces : List Bytes}
    (hsize : maxRequestBytes < pieces.flatten.length)
    (hnone : newline ∉ pieces.flatten.take maxRequestBytes) :
    requestOf pieces = .error .tooLarge := by
  rcases requestOf_cases pieces with ⟨-, hfits | hmem⟩ | ⟨_, _, _, -, -, -, heq⟩
  · omega
  · exact absurd hmem hnone
  · exact heq

/-- An early newline is seen in time if all pieces but the last one are full. -/
theorem requestOf_of_full {pieces : List Bytes}
    (hlength : ∀ piece ∈ pieces, piece.length ≤ pieceSize)
    (hfull : ∀ piece ∈ pieces.dropLast, piece.length = pieceSize)
    (hmem : newline ∈ pieces.flatten.take maxRequestBytes) :
    requestOf pieces = parse pieces.flatten := by
  rcases requestOf_cases pieces with ⟨heq, -⟩ | ⟨front, piece, rest, rfl, hnone, hexceeds, -⟩
  · exact heq
  · -- The limit is a number of full pieces, so the pieces in front of this one fill it.
    have hfront : front.flatten.length = front.length * pieceSize := by
      rw [List.length_flatten, List.sum_eq_card_nsmul (front.map List.length) pieceSize]
      · simp
      · intro n hn
        obtain ⟨full, hmem, rfl⟩ := List.mem_map.mp hn
        refine hfull full ?_
        rw [List.dropLast_append_of_ne_nil (List.cons_ne_nil _ _)]
        exact List.mem_append_left _ hmem
    have hpiece : piece.length ≤ pieceSize := hlength piece (by simp)
    have hfilled : maxRequestBytes ≤ front.flatten.length := by
      have hlimit : maxRequestBytes = 256 * pieceSize := rfl
      rw [hfront, hlimit] at hexceeds ⊢
      have hcount : 256 * pieceSize < (front.length + 1) * pieceSize := by
        rw [Nat.add_mul]
        omega
      exact Nat.mul_le_mul_right _ (Nat.lt_succ_iff.mp (Nat.lt_of_mul_lt_mul_right hcount))
    rw [List.flatten_append, List.take_append_of_le_length hfilled] at hmem
    exact absurd (List.mem_of_mem_take hmem) hnone

/-! ### Cuts -/

/-- Bytes come in pieces: none of them is empty or larger than what is taken at a time. -/
structure IsCut (pieces : List Bytes) (bytes : Bytes) : Prop where
  flatten_eq : pieces.flatten = bytes
  length_pos : ∀ piece ∈ pieces, 0 < piece.length
  length_le : ∀ piece ∈ pieces, piece.length ≤ pieceSize

variable {bytes : Bytes}

/-- The pieces of bytes, if there are any, are the first bytes and the pieces of the rest. -/
theorem pieces_of_ne_nil (hne : bytes ≠ []) :
    pieces pieceSize bytes =
      bytes.take pieceSize :: pieces pieceSize (bytes.drop pieceSize) := by
  rw [pieces, dif_neg (by simp [hne, pieceSize])]

theorem pieces_nil (size : Nat) : pieces size [] = [] := by
  rw [pieces, dif_pos (.inl rfl)]

theorem isCut_pieces (bytes : Bytes) : IsCut (pieces pieceSize bytes) bytes := by
  induction hn : bytes.length using Nat.strongRecOn generalizing bytes with
  | ind n ih =>
    by_cases hne : bytes = []
    · rw [hne, pieces_nil]
      exact ⟨rfl, nofun, nofun⟩
    · have hpos : 0 < bytes.length := List.length_pos_iff.mpr hne
      have hsize : 0 < pieceSize := by decide
      have hrest := ih (bytes.drop pieceSize).length
        (by rw [List.length_drop]; omega) (bytes.drop pieceSize) rfl
      rw [pieces_of_ne_nil hne]
      refine ⟨?_, ?_, ?_⟩
      · rw [List.flatten_cons, hrest.flatten_eq, List.take_append_drop]
      · refine List.forall_mem_cons.mpr ⟨?_, hrest.length_pos⟩
        rw [List.length_take]
        omega
      · exact List.forall_mem_cons.mpr ⟨List.length_take_le _ _, hrest.length_le⟩

/-- All pieces but the last one are full. -/
theorem length_of_mem_dropLast_pieces (bytes : Bytes) :
    ∀ piece ∈ (pieces pieceSize bytes).dropLast, piece.length = pieceSize := by
  induction hn : bytes.length using Nat.strongRecOn generalizing bytes with
  | ind n ih =>
    by_cases hne : bytes = []
    · rw [hne, pieces_nil]
      exact nofun
    · have hpos : 0 < bytes.length := List.length_pos_iff.mpr hne
      have hsize : 0 < pieceSize := by decide
      rw [pieces_of_ne_nil hne]
      by_cases hrest : bytes.drop pieceSize = []
      · rw [hrest, pieces_nil]
        exact nofun
      · have hlonger : pieceSize < bytes.length := by
          rw [List.drop_eq_nil_iff] at hrest
          omega
        have hnext : pieces pieceSize (bytes.drop pieceSize) ≠ [] := by
          rw [pieces_of_ne_nil hrest]
          exact List.cons_ne_nil _ _
        rw [List.dropLast_cons_of_ne_nil hnext]
        refine List.forall_mem_cons.mpr ⟨?_, ?_⟩
        · rw [List.length_take]
          omega
        · exact ih (bytes.drop pieceSize).length
            (by rw [List.length_drop]; omega) (bytes.drop pieceSize) rfl

/-- Bytes that the daemon cuts by itself are too many only without an early newline. -/
theorem requestOf_pieces (bytes : Bytes) :
    requestOf (pieces pieceSize bytes) =
      if bytes.length ≤ maxRequestBytes ∨ newline ∈ bytes.take maxRequestBytes then parse bytes
      else .error .tooLarge := by
  have hcut := isCut_pieces bytes
  by_cases hsize : bytes.length ≤ maxRequestBytes
  · rw [if_pos (.inl hsize), requestOf_of_length_le (by rwa [hcut.flatten_eq]), hcut.flatten_eq]
  · by_cases hmem : newline ∈ bytes.take maxRequestBytes
    · rw [if_pos (.inr hmem), requestOf_of_full hcut.length_le
        (length_of_mem_dropLast_pieces bytes) (by rwa [hcut.flatten_eq]), hcut.flatten_eq]
    · rw [if_neg (not_or.mpr ⟨hsize, hmem⟩)]
      exact requestOf_of_no_newline (by rw [hcut.flatten_eq]; omega) (by rwa [hcut.flatten_eq])

/-! ### What is received -/

/-- What comes of the line a request stands on. -/
def lineResult (line : Bytes) : Except ErrorReport Request :=
  if line.all isBlankByte then .error ⟨"empty_request", "request body was empty"⟩
  else (Request.ofBytes line).mapError fun e ↦
    ⟨"invalid_json", "request was not valid JSON: " ++ e.message⟩

/-- What comes of a connection that brings these pieces. -/
def received (pieces : List Bytes) : Except ErrorReport Request :=
  (requestOf pieces).mapError RequestError.report

theorem mapError_parse (bytes : Bytes) :
    (parse bytes).mapError RequestError.report = lineResult (firstLine bytes) := by
  rw [parse, lineResult]
  by_cases hblank : (firstLine bytes).all isBlankByte = true
  · rw [if_pos hblank, if_pos hblank]
    rfl
  · rw [if_neg hblank, if_neg hblank]
    cases Request.ofBytes (firstLine bytes) <;> rfl

/-- What comes of a connection does not depend on how its bytes are cut, if they are not too many:
it is what comes of the bytes before the first newline. Too many bytes are refused if no newline is
among the first ones. If there is one, they are refused or the line counts, and the line counts if
all pieces but the last one are full. -/
theorem received_of_isCut {pieces : List Bytes} (hcut : IsCut pieces bytes) :
    (bytes.length ≤ maxRequestBytes → received pieces = lineResult (firstLine bytes)) ∧
    (maxRequestBytes < bytes.length → newline ∉ bytes.take maxRequestBytes →
      received pieces =
        .error ⟨"request_too_large", "request exceeded maximum size"⟩) ∧
    (maxRequestBytes < bytes.length → newline ∈ bytes.take maxRequestBytes →
      (received pieces = lineResult (firstLine bytes) ∨
        received pieces =
          .error ⟨"request_too_large", "request exceeded maximum size"⟩) ∧
      ((∀ piece ∈ pieces.dropLast, piece.length = pieceSize) →
        received pieces = lineResult (firstLine bytes))) := by
  obtain ⟨rfl, -, hlength⟩ := hcut
  have hread (h : requestOf pieces = parse pieces.flatten) :
      received pieces = lineResult (firstLine pieces.flatten) := by
    rw [received, h, mapError_parse]
  have hrefused (h : requestOf pieces = .error .tooLarge) :
      received pieces = .error ⟨"request_too_large", "request exceeded maximum size"⟩ := by
    rw [received, h]
    rfl
  refine ⟨fun hsize ↦ ?_, fun hsize hnone ↦ ?_, fun _ hmem ↦ ⟨?_, fun hfull ↦ ?_⟩⟩
  · exact hread (requestOf_of_length_le hsize)
  · exact hrefused (requestOf_of_no_newline hsize hnone)
  · rcases requestOf_cases pieces with ⟨heq, -⟩ | ⟨_, _, _, -, -, -, heq⟩
    · exact .inl (hread heq)
    · exact .inr (hrefused heq)
  · exact hread (requestOf_of_full hlength hfull hmem)

/-- A request in two pieces with something behind its line, more blanks than are taken, and as many
behind a newline. -/
theorem received_of_isCut_limits :
    let request : Request := ⟨1, .clear, none, none⟩
    let line := request.body ++ [newline]
    let blanks := List.replicate (maxRequestBytes + 16) 32 ++ [newline]
    let late := newline :: List.replicate maxRequestBytes 32
    (IsCut [line, [newline, 33]] (line ++ [newline, 33]) ∧
      (line ++ [newline, 33]).length ≤ maxRequestBytes ∧
      received [line, [newline, 33]] = .ok request) ∧
    (IsCut (pieces pieceSize blanks) blanks ∧ maxRequestBytes < blanks.length ∧
      newline ∉ blanks.take maxRequestBytes ∧
      received (pieces pieceSize blanks) =
        .error ⟨"request_too_large", "request exceeded maximum size"⟩) ∧
    (IsCut (pieces pieceSize late) late ∧ maxRequestBytes < late.length ∧
      newline ∈ late.take maxRequestBytes ∧
      (∀ piece ∈ (pieces pieceSize late).dropLast, piece.length = pieceSize) ∧
      received (pieces pieceSize late) = .error ⟨"empty_request", "request body was empty"⟩) := by
  intro request line blanks late
  have hreadable : request.Readable := ⟨by decide, nofun, nofun⟩
  have hrequest : IsCut [line, [newline, 33]] (line ++ [newline, 33]) :=
    ⟨by simp, by simp [line], by decide⟩
  have hshort : (line ++ [newline, 33]).length ≤ maxRequestBytes := by decide
  have hblanks : maxRequestBytes < blanks.length := by
    rw [List.length_append, List.length_replicate]
    omega
  have hnone : newline ∉ blanks.take maxRequestBytes := by
    rw [List.take_append_of_le_length (by simp), List.take_replicate]
    exact fun hmem ↦ absurd (List.eq_of_mem_replicate hmem) (by decide)
  have hlate : maxRequestBytes < late.length := by
    rw [List.length_cons, List.length_replicate]
    exact Nat.lt_succ_self _
  have hmem : newline ∈ late.take maxRequestBytes := List.mem_cons_self
  have hfull := length_of_mem_dropLast_pieces late
  refine ⟨⟨hrequest, hshort, ?_⟩, ⟨isCut_pieces _, hblanks, hnone, ?_⟩,
    ⟨isCut_pieces _, hlate, hmem, hfull, ?_⟩⟩
  · rw [(received_of_isCut hrequest).1 hshort, firstLine_append_of_mem (by simp [line]),
      ← mapError_parse, parse_line hreadable]
    rfl
  · exact (received_of_isCut (isCut_pieces blanks)).2.1 hblanks hnone
  · exact ((received_of_isCut (isCut_pieces late)).2.2 hlate hmem).2 hfull

end QueryWatch.Framing
