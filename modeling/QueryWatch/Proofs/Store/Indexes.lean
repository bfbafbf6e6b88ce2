import Mathlib.Data.List.Nodup
import Mathlib.Tactic.Common
import QueryWatch.Store.Update

/-!
The list of sessions and the two indexes into it. `Store.Indexed` says that they agree: a session is
found at the place at which it stands, the sessions of a connection stand in the order of their
generations without a gap, and the newest one is that of the last generation. The lemmas below it
read such a store: `session?_eq_some_iff` and `newestPlaced?_eq_some_iff` say what the look-ups find,
`placeOf_lt` and `newestPlaceOf_lt` that every place they go through is in the list.
`Indexed.openSession` shows that opening the next generation keeps the indexes right.
-/

set_option autoImplicit false

namespace QueryWatch.Store

variable {s t : Store} {id : SessionId} {connection : ConnectionId}

/-! ### Ids and generations -/

/-- The ids of the sessions, in the order in which they were first seen. -/
def ids (s : Store) : List SessionId := s.sessions.map (·.id)

/-- The ids of the sessions of a connection. -/
def idsOf (s : Store) (connection : ConnectionId) : List SessionId :=
  s.ids.filter (·.connection = connection)

/-- How many generations a connection has. -/
def generations (s : Store) (connection : ConnectionId) : Nat := (s.idsOf connection).length

theorem idsOf_eq_map_sessionsOf (s : Store) (connection : ConnectionId) :
    s.idsOf connection = (s.sessionsOf connection).map (·.id) := by
  unfold idsOf ids sessionsOf
  rw [List.filter_map]
  rfl

theorem ids_getElem? (s : Store) (place : Nat) : s.ids[place]? = s.sessions[place]?.map (·.id) := by
  unfold ids
  rw [List.getElem?_map]

theorem mem_ids_of_mem {x : Session} (hx : x ∈ s.sessions) : x.id ∈ s.ids :=
  List.mem_map_of_mem hx

theorem ids_congr (h : t.sessions = s.sessions) : t.ids = s.ids := by
  unfold ids
  rw [h]

theorem generations_congr (h : t.ids = s.ids) (connection : ConnectionId) :
    t.generations connection = s.generations connection := by
  unfold generations idsOf
  rw [h]

/-! ### A session is changed -/

theorem updateSession_getElem? (s : Store) (place : Nat) (f : Session → Session) (i : Nat) :
    (s.updateSession place f).sessions[i]? =
      s.sessions[i]?.map fun x ↦ if place = i then f x else x := by
  rw [updateSession, List.getElem?_modify]
  by_cases h : place = i <;> simp [h]

theorem updateSession_getElem?_of_some {i : Nat} {x : Session} (place : Nat)
    (f : Session → Session) (hx : s.sessions[i]? = some x) :
    (s.updateSession place f).sessions[i]? = some (if place = i then f x else x) := by
  rw [updateSession_getElem?, hx, Option.map_some]

theorem newestPlaced?_updateSession {place : Nat} {x : Session} (f : Session → Session)
    (hnewest : s.newestPlaced? connection = some (place, x)) :
    (s.updateSession place f).newestPlaced? connection = some (place, f x) := by
  obtain ⟨found, hfound, hx⟩ := Option.bind_eq_some_iff.mp hnewest
  obtain ⟨y, hy, heq⟩ := Option.map_eq_some_iff.mp hx
  cases heq
  refine Option.bind_eq_some_iff.mpr ⟨place, hfound, ?_⟩
  rw [updateSession_getElem?_of_some place f hy, if_pos rfl]
  rfl

/-- Nothing that an update of a session keeps is different in the list. -/
theorem map_updateSession {α : Type} {g : Session → α} {place : Nat} {f : Session → Session}
    (hsame : ∀ x, s.sessions[place]? = some x → g (f x) = g x) :
    (s.updateSession place f).sessions.map g = s.sessions.map g := by
  apply List.ext_getElem?
  intro i
  rw [List.getElem?_map, List.getElem?_map, updateSession_getElem?]
  by_cases hplace : place = i
  · subst hplace
    cases hx : s.sessions[place]? with
    | none => rfl
    | some x => simp [hsame x hx]
  · simp [hplace]

theorem ids_updateSession (place : Nat) {f : Session → Session} (hid : ∀ x, (f x).id = x.id) :
    (s.updateSession place f).ids = s.ids :=
  map_updateSession fun x _ ↦ hid x

/-- A session of the changed list was there before or is what became of the one at the place. -/
theorem exists_of_mem_updateSession {place : Nat} {f : Session → Session} {y : Session}
    (hy : y ∈ (s.updateSession place f).sessions) :
    ∃ x ∈ s.sessions, y = x ∨ s.sessions[place]? = some x ∧ y = f x := by
  obtain ⟨i, hi⟩ := List.mem_iff_getElem?.mp hy
  rw [updateSession_getElem?, Option.map_eq_some_iff] at hi
  obtain ⟨x, hx, rfl⟩ := hi
  refine ⟨x, List.mem_of_getElem? hx, ?_⟩
  by_cases hplace : place = i
  · subst hplace
    exact Or.inr ⟨hx, if_pos rfl⟩
  · exact Or.inl (if_neg hplace)

/-- A session that was there is still there or is the one at the place. -/
theorem mem_updateSession (place : Nat) (f : Session → Session) {x : Session}
    (hx : x ∈ s.sessions) : x ∈ (s.updateSession place f).sessions ∨
      s.sessions[place]? = some x ∧ f x ∈ (s.updateSession place f).sessions := by
  obtain ⟨i, hi⟩ := List.mem_iff_getElem?.mp hx
  have hnext := updateSession_getElem? s place f i
  rw [hi, Option.map_some] at hnext
  by_cases hplace : place = i
  · subst hplace
    rw [if_pos rfl] at hnext
    exact Or.inr ⟨hi, List.mem_of_getElem? hnext⟩
  · rw [if_neg hplace] at hnext
    exact Or.inl (List.mem_of_getElem? hnext)

theorem mem_updateSession_of_place {place : Nat} (f : Session → Session) {x : Session}
    (hplace : s.sessions[place]? = some x) : f x ∈ (s.updateSession place f).sessions := by
  apply List.mem_of_getElem? (i := place)
  rw [updateSession_getElem?_of_some place f hplace, if_pos rfl]

/-! ### A session is opened -/

theorem ids_openSession (s : Store) (id : SessionId) (stage : SessionStage) :
    (s.openSession id stage).ids = s.ids ++ [id] := by
  simp [ids, openSession]

/-- Behind the sessions there were stands the one that was opened. -/
theorem ids_openSession_getElem?_eq_some_iff (s : Store) (id other : SessionId)
    (stage : SessionStage) (place : Nat) : (s.openSession id stage).ids[place]? = some other ↔
      s.ids[place]? = some other ∨ place = s.sessions.length ∧ other = id := by
  have hlength : s.ids.length = s.sessions.length := List.length_map _
  rw [ids_openSession, List.getElem?_append, hlength]
  by_cases hplace : place < s.sessions.length
  · rw [if_pos hplace]
    have hne : place ≠ s.sessions.length := by omega
    simp [hne]
  · rw [if_neg hplace, List.getElem?_eq_none (l := s.ids) (by omega), List.getElem?_singleton]
    by_cases hlast : place = s.sessions.length
    · simp [hlast, eq_comm]
    · have hne : place - s.sessions.length ≠ 0 := by omega
      simp [hne, hlast]

theorem placeOf_openSession (s : Store) (id other : SessionId) (stage : SessionStage) :
    (s.openSession id stage).placeOf[other]? =
      if id = other then some s.sessions.length else s.placeOf[other]? := by
  simp [openSession, Std.ExtTreeMap.getElem?_insert]

theorem newestPlaceOf_openSession (s : Store) (id : SessionId) (stage : SessionStage)
    (connection : ConnectionId) : (s.openSession id stage).newestPlaceOf[connection]? =
      if id.connection = connection then some s.sessions.length
      else s.newestPlaceOf[connection]? := by
  simp [openSession, Std.ExtTreeMap.getElem?_insert]

theorem idsOf_openSession (s : Store) (id : SessionId) (stage : SessionStage)
    (connection : ConnectionId) : (s.openSession id stage).idsOf connection =
      if id.connection = connection then s.idsOf connection ++ [id] else s.idsOf connection := by
  unfold idsOf
  rw [ids_openSession, List.filter_append]
  by_cases h : id.connection = connection <;> simp [h]

theorem generations_openSession (s : Store) (id : SessionId) (stage : SessionStage)
    (connection : ConnectionId) : (s.openSession id stage).generations connection =
      if id.connection = connection then s.generations connection + 1
      else s.generations connection := by
  unfold generations
  rw [idsOf_openSession]
  split <;> simp

/-- A session was there before or is the one that was opened. -/
theorem mem_openSession {stage : SessionStage} {y : Session}
    (hy : y ∈ (s.openSession id stage).sessions) :
    y ∈ s.sessions ∨ y = ⟨id, stage, [], 0, s.lastNumber, s.lastNumber⟩ := by
  rcases List.mem_append.mp hy with hy | hy
  · exact Or.inl hy
  · exact Or.inr (List.mem_singleton.mp hy)

/-! ### Agreement of the indexes with the list -/

/-- The indexes into the list of sessions agree with it. -/
structure Indexed (s : Store) : Prop where
  /-- The index finds a session at a place exactly if it stands there. -/
  placed : ∀ (id : SessionId) (place : Nat), s.placeOf[id]? = some place ↔ s.ids[place]? = some id
  /-- The sessions of a connection stand in the order of their generations, which have no gap. -/
  numbered : ∀ connection : ConnectionId,
    s.idsOf connection = (List.range (s.generations connection)).map (SessionId.mk connection)
  /-- The index of newest sessions finds the last generation of each connection that has one. -/
  newest : ∀ (connection : ConnectionId) (place : Nat), s.newestPlaceOf[connection]? = some place ↔
    ∃ generation, s.generations connection = generation + 1 ∧
      s.ids[place]? = some ⟨connection, generation⟩

namespace Indexed

theorem congr (h : s.Indexed) (hids : t.ids = s.ids) (hplaceOf : t.placeOf = s.placeOf)
    (hnewest : t.newestPlaceOf = s.newestPlaceOf) : t.Indexed where
  placed := by
    rw [hplaceOf, hids]
    exact h.placed
  numbered connection := by
    rw [idsOf, hids, generations_congr hids]
    exact h.numbered connection
  newest connection := by
    rw [hnewest, hids, generations_congr hids]
    exact h.newest connection

theorem mem_ids_iff (h : s.Indexed) :
    id ∈ s.ids ↔ id.generation < s.generations id.connection := by
  have hfilter : id ∈ s.ids ↔ id ∈ s.idsOf id.connection := by simp [idsOf]
  rw [hfilter, h.numbered]
  cases id
  simp

theorem nodup_ids (h : s.Indexed) : s.ids.Nodup := by
  rw [List.nodup_iff_getElem?_ne_getElem?]
  intro i j hij hj heq
  have hi := List.getElem?_eq_getElem (Nat.lt_trans hij hj)
  have hplace := (h.placed _ _).mpr hi
  rw [(h.placed _ j).mpr (heq ▸ hi)] at hplace
  simp only [Option.some.injEq] at hplace
  omega

/-- Two sessions of one id are the same. -/
theorem eq_of_id_eq (h : s.Indexed) {x y : Session} (hx : x ∈ s.sessions) (hy : y ∈ s.sessions)
    (hid : x.id = y.id) : x = y :=
  List.inj_on_of_nodup_map h.nodup_ids hx hy hid

theorem placeOf_lt (h : s.Indexed) {place : Nat} (hplace : s.placeOf[id]? = some place) :
    place < s.sessions.length := by
  have hlt := (List.getElem?_eq_some_iff.mp ((h.placed id place).mp hplace)).1
  rwa [ids, List.length_map] at hlt

theorem newestPlaceOf_lt (h : s.Indexed) {place : Nat}
    (hplace : s.newestPlaceOf[connection]? = some place) : place < s.sessions.length := by
  obtain ⟨generation, -, hid⟩ := (h.newest connection place).mp hplace
  exact h.placeOf_lt ((h.placed _ place).mpr hid)

/-- The index finds exactly the sessions there are. -/
theorem session?_eq_some_iff (h : s.Indexed) {x : Session} :
    s.session? id = some x ↔ x ∈ s.sessions ∧ x.id = id := by
  unfold session?
  rw [Option.bind_eq_some_iff]
  constructor
  · rintro ⟨place, hplace, hx⟩
    have hid := (h.placed id place).mp hplace
    rw [ids_getElem?, hx] at hid
    exact ⟨List.mem_of_getElem? hx, Option.some.inj hid⟩
  · rintro ⟨hx, rfl⟩
    obtain ⟨place, hplace⟩ := List.mem_iff_getElem?.mp hx
    exact ⟨place, (h.placed x.id place).mpr (by rw [ids_getElem?, hplace]; rfl), hplace⟩

/-- The index of newest sessions finds the session of the last generation, at its place. -/
theorem newestPlaced?_eq_some_iff (h : s.Indexed) {place : Nat} {x : Session} :
    s.newestPlaced? connection = some (place, x) ↔ s.sessions[place]? = some x ∧
      x.id.connection = connection ∧ s.generations connection = x.id.generation + 1 := by
  unfold newestPlaced?
  simp only [Option.bind_eq_some_iff, Option.map_eq_some_iff, Prod.mk.injEq]
  constructor
  · rintro ⟨place, hplace, x, hx, rfl, rfl⟩
    obtain ⟨generation, hgenerations, hid⟩ := (h.newest connection place).mp hplace
    rw [ids_getElem?, hx, Option.map_some, Option.some.injEq] at hid
    rw [hid]
    exact ⟨hx, rfl, hgenerations⟩
  · rintro ⟨hx, rfl, hgenerations⟩
    refine ⟨place, (h.newest _ place).mpr ⟨_, hgenerations, ?_⟩, x, hx, rfl, rfl⟩
    rw [ids_getElem?, hx]
    rfl

theorem newestPlaced?_eq_none_iff (h : s.Indexed) :
    s.newestPlaced? connection = none ↔ s.generations connection = 0 := by
  constructor
  · intro hnone
    by_contra hpos
    obtain ⟨generation, hgeneration⟩ := Nat.exists_eq_succ_of_ne_zero hpos
    have hmem : (⟨connection, generation⟩ : SessionId) ∈ s.ids := by
      rw [h.mem_ids_iff, hgeneration]
      exact Nat.lt_succ_self generation
    obtain ⟨x, hx, hid⟩ := List.mem_map.mp hmem
    obtain ⟨place, hplace⟩ := List.mem_iff_getElem?.mp hx
    have hsome := h.newestPlaced?_eq_some_iff.mpr
      ⟨hplace, by rw [hid], by rw [hid]; exact hgeneration⟩
    rw [hnone] at hsome
    cases hsome
  · intro hzero
    cases hfound : s.newestPlaced? connection with
    | none => rfl
    | some found =>
      have hpos := (h.newestPlaced?_eq_some_iff.mp hfound).2.2
      omega

theorem newestPlaceOf_eq_none_iff (h : s.Indexed) :
    s.newestPlaceOf[connection]? = none ↔ s.generations connection = 0 := by
  rw [← h.newestPlaced?_eq_none_iff]
  unfold newestPlaced?
  cases hplace : s.newestPlaceOf[connection]? with
  | none => simp
  | some place => simp [List.getElem?_eq_getElem (h.newestPlaceOf_lt hplace)]

theorem newestSession?_eq_some_iff (h : s.Indexed) {x : Session} :
    s.newestSession? connection = some x ↔ x ∈ s.sessions ∧ x.id.connection = connection ∧
      s.generations connection = x.id.generation + 1 := by
  unfold newestSession?
  rw [Option.map_eq_some_iff]
  constructor
  · rintro ⟨⟨place, x⟩, hx, rfl⟩
    obtain ⟨hplace, hx⟩ := h.newestPlaced?_eq_some_iff.mp hx
    exact ⟨List.mem_of_getElem? hplace, hx⟩
  · rintro ⟨hx, hnewest⟩
    obtain ⟨place, hplace⟩ := List.mem_iff_getElem?.mp hx
    exact ⟨(place, x), h.newestPlaced?_eq_some_iff.mpr ⟨hplace, hnewest⟩, rfl⟩

theorem newestSession?_eq_none_iff (h : s.Indexed) :
    s.newestSession? connection = none ↔ s.generations connection = 0 := by
  rw [newestSession?, Option.map_eq_none_iff]
  exact h.newestPlaced?_eq_none_iff

/-- The sessions of a connection are those of its generations, oldest first. -/
theorem sessionsOf_eq (h : s.Indexed) (connection : ConnectionId) :
    s.sessionsOf connection = (List.range (s.generations connection)).filterMap fun generation ↦
      s.session? ⟨connection, generation⟩ := by
  have hids : (s.sessionsOf connection).map (·.id) =
      (List.range (s.generations connection)).map (SessionId.mk connection) := by
    rw [← idsOf_eq_map_sessionsOf, h.numbered]
  have hfound : ∀ x ∈ s.sessionsOf connection, s.session? x.id = some x := fun x hx ↦
    h.session?_eq_some_iff.mpr ⟨(List.mem_filter.mp hx).1, rfl⟩
  calc s.sessionsOf connection
      = (s.sessionsOf connection).filterMap fun x ↦ s.session? x.id := by
        rw [List.filterMap_congr hfound, List.filterMap_some]
    _ = ((s.sessionsOf connection).map (·.id)).filterMap s.session? := by
        rw [List.filterMap_map]
        rfl
    _ = (List.range (s.generations connection)).filterMap fun generation ↦
          s.session? ⟨connection, generation⟩ := by
        rw [hids, List.filterMap_map]
        rfl

/-- Opening the next generation of a connection keeps the indexes right. -/
theorem openSession (h : s.Indexed) (stage : SessionStage)
    (hnext : id.generation = s.generations id.connection) : (s.openSession id stage).Indexed where
  placed other place := by
    rw [ids_openSession_getElem?_eq_some_iff, ← h.placed, placeOf_openSession]
    by_cases hother : id = other
    · subst hother
      have hnone : s.placeOf[id]? ≠ some place := by
        rw [ne_eq, h.placed]
        intro hplace
        have hlt := h.mem_ids_iff.mp (List.mem_of_getElem? hplace)
        omega
      simp [hnone, eq_comm]
    · simp [hother, Ne.symm hother]
  numbered connection := by
    rw [idsOf_openSession, generations_openSession]
    split
    next hsame =>
      subst hsame
      rw [h.numbered, List.range_succ, List.map_append, ← hnext]
      rfl
    next => exact h.numbered connection
  newest connection place := by
    rw [generations_openSession, newestPlaceOf_openSession]
    simp only [ids_openSession_getElem?_eq_some_iff]
    by_cases hsame : id.connection = connection
    · subst hsame
      rw [if_pos rfl, if_pos rfl, Option.some.injEq]
      constructor
      · rintro rfl
        exact ⟨_, rfl, Or.inr ⟨rfl, by rw [← hnext]⟩⟩
      · rintro ⟨generation, hgeneration, hid | ⟨rfl, -⟩⟩
        · have hlt := h.mem_ids_iff.mp (List.mem_of_getElem? hid)
          simp only at hlt
          omega
        · rfl
    · rw [if_neg hsame, if_neg hsame, h.newest]
      refine exists_congr fun generation ↦ and_congr_right fun _ ↦ ?_
      have hother : (⟨connection, generation⟩ : SessionId) ≠ id := fun heq ↦
        hsame (by rw [← heq])
      simp [hother]

end Indexed

end QueryWatch.Store
