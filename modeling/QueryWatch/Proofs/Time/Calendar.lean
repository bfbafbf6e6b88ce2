import QueryWatch.Time.Timestamp

/-!
The calendar. The date of a number of days is a day of its month (`valid_ofDays`), and has that
number of days (`toDays_ofDays`). Both are read off where the day stands in an era of 400 years
(`InEra`): centuries have 36524 days and four years have 1461, except that the last year of four may
have no leap day, so the day of a year is found where the divisions by whole numbers of days have
put it (`InEra.yearOfEra`, `InEra.dayOfYear`). Dates are in the order of their numbers of days from
one year to the next (`toDays_lt_of_year_lt`, `toDays_le_of_year_le`).
-/

set_option autoImplicit false

namespace QueryWatch.CalendarDate

/-! ### Days of an era -/

/-- A day of an era is the `n`-th day of a year, in a century, four years of it, and one year of
these, all counted from zero. A year has a 366th day if it is the last of four years, unless it is
the last of a century that is not the last of its era. -/
structure InEra (day century four year n : Int) : Prop where
  century_le : 0 ≤ century ∧ century ≤ 3
  four_le : 0 ≤ four ∧ four ≤ 24
  year_le : 0 ≤ year ∧ year ≤ 3
  inYear : 0 ≤ n ∧ n ≤ 365
  leap : n = 365 → year = 3 ∧ (four ≠ 24 ∨ century = 3)
  day_eq : day = 36524 * century + 1461 * four + 365 * year + n

/-- The year of an era that a day is in. -/
def yearOfEra (day : Int) : Int := (day - day / 1460 + day / 36524 - day / 146096) / 365

/-- The place of a day of an era in its year. -/
def dayOfYear (day : Int) : Int :=
  day - (365 * yearOfEra day + yearOfEra day / 4 - yearOfEra day / 100)

theorem exists_inEra (day : Int) (hlow : 0 ≤ day) (hhigh : day < 146097) :
    ∃ century four year n, InEra day century four year n := by
  rcases Int.lt_or_eq_of_le (show day ≤ 146096 by omega) with h | rfl
  · refine ⟨day / 36524, day % 36524 / 1461, min 3 (day % 36524 % 1461 / 365),
      day % 36524 % 1461 - 365 * min 3 (day % 36524 % 1461 / 365), ?_, ?_, ?_, ?_, ?_, ?_⟩ <;> omega
  · exact ⟨3, 24, 3, 365, by decide, by decide, by decide, by decide, by decide, by decide⟩

namespace InEra

variable {day century four year n : Int}

theorem yearOfEra (h : InEra day century four year n) :
    yearOfEra day = 100 * century + 4 * four + year := by
  obtain ⟨hcentury, hfour, hyear, hn, hleap, rfl⟩ := h
  -- The last day of an era goes one century too far in two of the divisions.
  have hcenturies : (36524 * century + 1461 * four + 365 * year + n) / 36524 =
      century + if n = 365 ∧ four = 24 ∧ year = 3 then 1 else 0 := by
    split <;> omega
  have heras : (36524 * century + 1461 * four + 365 * year + n) / 146096 =
      if n = 365 ∧ four = 24 ∧ year = 3 then 1 else 0 := by
    split <;> omega
  have hfours : (36524 * century + 1461 * four + 365 * year + n) / 1460 =
      25 * century + four +
        if 1460 ≤ 24 * century + four + 365 * year + n then 1 else 0 := by
    split <;> omega
  rw [CalendarDate.yearOfEra, hcenturies, heras, hfours]
  split <;> split <;> omega

theorem dayOfYear (h : InEra day century four year n) : dayOfYear day = n := by
  rw [CalendarDate.dayOfYear, h.yearOfEra]
  obtain ⟨hcentury, hfour, hyear, hn, hleap, rfl⟩ := h
  omega

end InEra

/-! ### Years from March on -/

/-- A day of a year that starts in March. -/
def ofMarch (year n : Int) : CalendarDate :=
  let m := (5 * n + 2) / 153
  let month := if m < 10 then m + 3 else m - 9
  ⟨if month ≤ 2 then year + 1 else year, month.toNat, (n - (153 * m + 2) / 5 + 1).toNat⟩

/-- The number of days before the March of a year. -/
def beforeMarch (year : Int) : Int :=
  365 * year + year / 4 - year / 100 + year / 400 - 719468

theorem ofDays_eq (days : Int) : ofDays days =
    ofMarch (yearOfEra ((days + 719468) % 146097) + (days + 719468) / 146097 * 400)
      (dayOfYear ((days + 719468) % 146097)) := rfl

theorem toDays_eq (year : Int) (month day : Nat) : toDays ⟨year, month, day⟩ =
    beforeMarch (if month ≤ 2 then year - 1 else year) +
      ((153 * (((month : Int) + 9) % 12) + 2) / 5 + day - 1) := by
  unfold toDays beforeMarch
  dsimp only
  omega

/-- A day of a year that starts in March is one of its months, of which the last two are in the next
year of the calendar. -/
theorem ofMarch_cases (year : Int) {n : Int} (hn : 0 ≤ n ∧ n ≤ 365) : ∃ m day : Nat,
    n = (153 * m + 2) / 5 + day - 1 ∧ n < (153 * (m + 1) + 2) / 5 ∧ 1 ≤ day ∧
      (m < 10 ∧ ofMarch year n = ⟨year, m + 3, day⟩ ∨
        (m = 10 ∨ m = 11) ∧ ofMarch year n = ⟨year + 1, m - 9, day⟩) := by
  refine ⟨((5 * n + 2) / 153).toNat, (n - (153 * ((5 * n + 2) / 153) + 2) / 5 + 1).toNat, by omega,
    by omega, by omega, ?_⟩
  unfold ofMarch
  dsimp only
  by_cases hm : (5 * n + 2) / 153 < 10
  · refine Or.inl ⟨by omega, ?_⟩
    rw [if_pos hm, if_neg (by omega)]
    congr 1
    omega
  · refine Or.inr ⟨by omega, ?_⟩
    rw [if_neg hm, if_pos (by omega)]
    congr 1
    omega

theorem toDays_ofMarch (year : Int) {n : Int} (hn : 0 ≤ n ∧ n ≤ 365) :
    (ofMarch year n).toDays = beforeMarch year + n := by
  obtain ⟨m, day, heq, -, -, ⟨hm, hdate⟩ | ⟨hm, hdate⟩⟩ := ofMarch_cases year hn
  · have hmonth : (((m + 3 : Nat) : Int) + 9) % 12 = m := by omega
    rw [hdate, toDays_eq, if_neg (by omega), hmonth]
    omega
  · have hmonth : (((m - 9 : Nat) : Int) + 9) % 12 = m := by omega
    rw [hdate, toDays_eq, if_pos (by omega), Int.add_sub_cancel, hmonth]
    omega

/-- The date of a number of days has that number of days. -/
theorem toDays_ofDays (days : Int) : (ofDays days).toDays = days := by
  obtain ⟨century, four, year, n, h⟩ :=
    exists_inEra ((days + 719468) % 146097) (by omega) (by omega)
  rw [ofDays_eq, h.dayOfYear, h.yearOfEra, toDays_ofMarch _ h.inYear, beforeMarch]
  obtain ⟨hcentury, hfour, hyear, -, -, heq⟩ := h
  generalize hera : (days + 719468) / 146097 = era
  have hfours : (100 * century + 4 * four + year + era * 400) / 4 =
      25 * century + four + 100 * era := by omega
  have hcenturies : (100 * century + 4 * four + year + era * 400) / 100 = century + 4 * era := by
    omega
  have heras : (100 * century + 4 * four + year + era * 400) / 400 = era := by omega
  rw [hfours, hcenturies, heras]
  omega

/-! ### Months -/

/-- A day that its month has. -/
structure Valid (d : CalendarDate) : Prop where
  month : 1 ≤ d.month ∧ d.month ≤ 12
  day : 1 ≤ d.day ∧ d.day ≤ daysInMonth d.year d.month

theorem daysInMonth_le (year : Int) (month : Nat) : daysInMonth year month ≤ 31 := by
  unfold daysInMonth
  split <;> split <;> decide

/-- Months from March to December have as many days as lie between their starts. -/
theorem daysInMonth_eq {m : Nat} (hm : m < 10) (year : Int) :
    (daysInMonth year (m + 3) : Int) = (153 * ((m : Int) + 1) + 2) / 5 - (153 * m + 2) / 5 := by
  have hcases : m = 0 ∨ m = 1 ∨ m = 2 ∨ m = 3 ∨ m = 4 ∨ m = 5 ∨ m = 6 ∨ m = 7 ∨ m = 8 ∨ m = 9 := by
    omega
  rcases hcases with rfl | rfl | rfl | rfl | rfl | rfl | rfl | rfl | rfl | rfl <;> rfl

/-- The date of a number of days is a day of its month. -/
theorem valid_ofDays (days : Int) : (ofDays days).Valid := by
  obtain ⟨century, four, year, n, h⟩ :=
    exists_inEra ((days + 719468) % 146097) (by omega) (by omega)
  rw [ofDays_eq, h.dayOfYear, h.yearOfEra]
  obtain ⟨hcentury, hfour, hyear, hn, hleap, -⟩ := h
  generalize hera : (days + 719468) / 146097 = era
  generalize hwhole : 100 * century + 4 * four + year + era * 400 = whole
  obtain ⟨m, day, heq, hlast, hday, ⟨hm, hdate⟩ | ⟨rfl | rfl, hdate⟩⟩ := ofMarch_cases whole hn
  · have hlength := daysInMonth_eq hm whole
    rw [hdate]
    refine ⟨⟨by dsimp only; omega, by dsimp only; omega⟩, hday, ?_⟩
    dsimp only
    omega
  · rw [hdate]
    refine ⟨⟨Nat.le_refl 1, (by decide : 1 ≤ 12)⟩, hday, ?_⟩
    show day ≤ 31
    omega
  · rw [hdate]
    refine ⟨⟨(by decide : 1 ≤ 2), (by decide : 2 ≤ 12)⟩, hday, ?_⟩
    show day ≤ if isLeapYear (whole + 1) then 29 else 28
    have hfeb : n = 365 → isLeapYear (whole + 1) = true := by
      intro hn
      obtain ⟨rfl, hfull⟩ := hleap hn
      simp only [isLeapYear, Bool.and_eq_true, Bool.or_eq_true, beq_iff_eq, bne_iff_ne]
      omega
    split
    · omega
    next hnot =>
      have hne : n ≠ 365 := fun hn ↦ hnot (hfeb hn)
      omega

/-! ### Years -/

theorem beforeMarch_succ (year : Int) : beforeMarch year + 365 ≤ beforeMarch (year + 1) := by
  unfold beforeMarch
  omega

theorem beforeMarch_le {first second : Int} (h : first ≤ second) :
    beforeMarch first ≤ beforeMarch second := by
  unfold beforeMarch
  omega

variable {d : CalendarDate}

theorem toDays_newYear (year : Int) : toDays ⟨year, 1, 1⟩ = beforeMarch (year - 1) + 306 :=
  toDays_eq year 1 1

/-- A date of an earlier year comes before the first day of a year. -/
theorem toDays_lt_of_year_lt (hd : d.Valid) (year : Int) (h : d.year < year) :
    d.toDays < toDays ⟨year, 1, 1⟩ := by
  obtain ⟨⟨hlow, hhigh⟩, hday, hlast⟩ := hd
  have hle := Nat.le_trans hlast (daysInMonth_le _ _)
  rw [toDays_newYear, show d = ⟨d.year, d.month, d.day⟩ from rfl, toDays_eq]
  by_cases hmonth : d.month ≤ 2
  · have hsucc := beforeMarch_succ (d.year - 1)
    have hmono := beforeMarch_le (show d.year - 1 + 1 ≤ year - 1 by omega)
    rw [if_pos hmonth]
    omega
  · have hmono := beforeMarch_le (show d.year ≤ year - 1 by omega)
    rw [if_neg hmonth]
    omega

/-- The first day of a year is not behind the dates of that year and of later ones. -/
theorem toDays_le_of_year_le (hd : d.Valid) (year : Int) (h : year ≤ d.year) :
    toDays ⟨year, 1, 1⟩ ≤ d.toDays := by
  obtain ⟨⟨hlow, hhigh⟩, hday, -⟩ := hd
  rw [toDays_newYear, show d = ⟨d.year, d.month, d.day⟩ from rfl, toDays_eq]
  by_cases hmonth : d.month ≤ 2
  · have hmono := beforeMarch_le (show year - 1 ≤ d.year - 1 by omega)
    rw [if_pos hmonth]
    omega
  · have hsucc := beforeMarch_succ (year - 1)
    have hmono := beforeMarch_le (show year - 1 + 1 ≤ d.year by omega)
    rw [if_neg hmonth]
    omega

end QueryWatch.CalendarDate
