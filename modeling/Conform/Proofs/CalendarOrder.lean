import Mathlib
import Conform.Calendar.Moment
/-! The date code `10000 * year + 100 * month + day` of a day number counted from 1970-01-01 is
strictly increasing in it, for years before 1 as well as after, so a moment's calendar day in a
zone is monotone in its instant.
-/

namespace Conform.Calendar

-----------------------------------------------------------------------------------------
-- Eras, years and days of a day number
-----------------------------------------------------------------------------------------

/-- The 400-year era of a day number, counted from the era that starts on 1 March of year 0. -/
def eraOf (z : Int) : Int := (z + 719468) / 146097

/-- The day of its era a day number falls on, from 0 to 146096. -/
def dayOfEra (z : Int) : Int := z + 719468 - eraOf z * 146097

/-- The year of an era a day of the era falls in, from 0 to 399. -/
def yearOfEra (doe : Int) : Int := (doe - doe / 1460 + doe / 36524 - doe / 146096) / 365

/-- The day of its year, counted from 1 March, that a day of an era falls on. -/
def dayOfYear (doe : Int) : Int :=
  doe - (365 * yearOfEra doe + yearOfEra doe / 4 - yearOfEra doe / 100)

/-- The month, counted from March as 0, of a day of a year counted from 1 March. -/
def marchMonth (doy : Int) : Int := (5 * doy + 2) / 153

/-- The day of its month of a day of a year counted from 1 March. -/
def monthDay (doy : Int) : Int := doy - (153 * marchMonth doy + 2) / 5 + 1

/-- The date code of a day of a year counted from 1 March, relative to the year it starts in:
`100 * month + day` from March to December, and 10000 more in January and February, which
belong to the next calendar year. -/
def marchCode (doy : Int) : Int :=
  10000 * (if marchMonth doy < 10 then 0 else 1)
    + 100 * (if marchMonth doy < 10 then marchMonth doy + 3 else marchMonth doy - 9) + monthDay doy

/-- The date code `10000 * year + 100 * month + day` of a day number. -/
def dayCode (days : Int) : Int :=
  let c := civilFromDays days
  c.1 * 10000 + (c.2.1 : Int) * 100 + (c.2.2 : Int)

/-- The civil date of a day number, in the parts of this module. -/
theorem civilFromDays_eq (z : Int) : civilFromDays z =
    let mp := marchMonth (dayOfYear (dayOfEra z))
    let m := if mp < 10 then mp + 3 else mp - 9
    ((if m ≤ 2 then yearOfEra (dayOfEra z) + eraOf z * 400 + 1
      else yearOfEra (dayOfEra z) + eraOf z * 400), m.toNat,
      (monthDay (dayOfYear (dayOfEra z))).toNat) := rfl

theorem dayOfEra_bounds (z : Int) : 0 ≤ dayOfEra z ∧ dayOfEra z ≤ 146096 := by
  unfold dayOfEra eraOf
  omega

/-- The next day is the next day of the same era, or the first day of the next era. -/
theorem dayOfEra_succ (z : Int) :
    (dayOfEra z < 146096 ∧ eraOf (z + 1) = eraOf z ∧ dayOfEra (z + 1) = dayOfEra z + 1)
    ∨ (dayOfEra z = 146096 ∧ eraOf (z + 1) = eraOf z + 1 ∧ dayOfEra (z + 1) = 0) := by
  unfold dayOfEra eraOf
  omega

-----------------------------------------------------------------------------------------
-- The year of an era
-----------------------------------------------------------------------------------------

/-- A day of an era written as 36524 days for each whole century, 1461 for each whole
four-year cycle of the century, 365 for each whole year of the cycle, and the day of the
year; the day 365 only ends the last year of a cycle that has a leap day. -/
theorem yearOfEra_parts (c q s r : Int) (hc : 0 ≤ c ∧ c ≤ 3) (hq : 0 ≤ q ∧ q ≤ 24)
    (hs : 0 ≤ s ∧ s ≤ 3) (hr : 0 ≤ r ∧ r ≤ 365) (leap : r = 365 → s = 3 ∧ (q < 24 ∨ c = 3))
    : yearOfEra (36524 * c + 1461 * q + 365 * s + r) = 100 * c + 4 * q + s := by
  -- each division of the formula in turn, while the context is small
  have four : (36524 * c + 1461 * q + 365 * s + r) / 1460
      = 25 * c + q + (24 * c + q + 365 * s + r) / 1460 := by omega
  have fourBound : 0 ≤ (24 * c + q + 365 * s + r) / 1460 ∧ (24 * c + q + 365 * s + r) / 1460 ≤ 1
      ∧ ((24 * c + q + 365 * s + r) / 1460 = 1 → s = 3 ∧ 269 ≤ r)
      ∧ (r = 365 → (24 * c + q + 365 * s + r) / 1460 = 1) := by omega
  have century : (36524 * c + 1461 * q + 365 * s + r) / 36524
      = c + (1461 * q + 365 * s + r) / 36524 := by omega
  have centuryBound : (1461 * q + 365 * s + r) / 36524
      = if q = 24 ∧ s = 3 ∧ r = 365 then 1 else 0 := by
    split_ifs with h <;> omega
  have era : (36524 * c + 1461 * q + 365 * s + r) / 146096
      = if c = 3 ∧ q = 24 ∧ s = 3 ∧ r = 365 then 1 else 0 := by
    split_ifs with h <;> omega
  unfold yearOfEra
  rw [four, century, centuryBound, era]
  -- what is left is the leap day of the cycle, against the leap days a century and an era drop
  clear four century centuryBound era
  generalize (24 * c + q + 365 * s + r) / 1460 = f at fourBound ⊢
  split_ifs with h1 h2 h2 <;> omega

/-- Every day of an era has the parts of `yearOfEra_parts`. -/
theorem dayOfEra_parts (doe : Int) (h0 : 0 ≤ doe) (h1 : doe ≤ 146096)
    : ∃ c q s r, (0 ≤ c ∧ c ≤ 3) ∧ (0 ≤ q ∧ q ≤ 24) ∧ (0 ≤ s ∧ s ≤ 3) ∧ (0 ≤ r ∧ r ≤ 365)
      ∧ (r = 365 → s = 3 ∧ (q < 24 ∨ c = 3)) ∧ doe = 36524 * c + 1461 * q + 365 * s + r := by
  -- centuries of 36524 days, the last one a day longer
  obtain ⟨c, doc, hc, hdoc, split1⟩ : ∃ c doc, (0 ≤ c ∧ c ≤ 3) ∧ (0 ≤ doc ∧ doc ≤ 36524)
      ∧ (doc = 36524 → c = 3) ∧ doe = 36524 * c + doc := by
    refine ⟨doe / 36524 - doe / 146096, doe - 36524 * (doe / 36524 - doe / 146096),
      ?_, ?_, ?_, ?_⟩ <;> omega
  -- four-year cycles of 1461 days, the last one of a century a day shorter
  obtain ⟨q, doq, hq, hdoq, split2⟩ : ∃ q doq, (0 ≤ q ∧ q ≤ 24) ∧ (0 ≤ doq ∧ doq ≤ 1460)
      ∧ doc = 1461 * q + doq := by
    refine ⟨doc / 1461, doc - 1461 * (doc / 1461), ?_, ?_, ?_⟩ <;> omega
  -- years of 365 days, the last one of a cycle a day longer
  obtain ⟨s, r, hs, hr, split3⟩ : ∃ s r, (0 ≤ s ∧ s ≤ 3) ∧ (0 ≤ r ∧ r ≤ 365)
      ∧ (r = 365 → doq = 1460) ∧ doq = 365 * s + r := by
    refine ⟨doq / 365 - doq / 1460, doq - 365 * (doq / 365 - doq / 1460), ?_, ?_, ?_, ?_⟩
      <;> omega
  refine ⟨c, q, s, r, hc, hq, hs, hr, fun last => ?_, by omega⟩
  have := split3.1 last
  omega

theorem dayOfYear_parts (c q s r : Int) (hc : 0 ≤ c ∧ c ≤ 3) (hq : 0 ≤ q ∧ q ≤ 24)
    (hs : 0 ≤ s ∧ s ≤ 3) (hr : 0 ≤ r ∧ r ≤ 365) (leap : r = 365 → s = 3 ∧ (q < 24 ∨ c = 3))
    : dayOfYear (36524 * c + 1461 * q + 365 * s + r) = r := by
  unfold dayOfYear
  rw [yearOfEra_parts c q s r hc hq hs hr leap]
  omega

theorem yearOfEra_bounds (doe : Int) (h0 : 0 ≤ doe) (h1 : doe ≤ 146096)
    : (0 ≤ yearOfEra doe ∧ yearOfEra doe ≤ 399) ∧ (0 ≤ dayOfYear doe ∧ dayOfYear doe ≤ 365) := by
  obtain ⟨c, q, s, r, hc, hq, hs, hr, leap, rfl⟩ := dayOfEra_parts doe h0 h1
  rw [yearOfEra_parts c q s r hc hq hs hr leap, dayOfYear_parts c q s r hc hq hs hr leap]
  omega

/-- The year of an era does not go back from one day to the next. -/
theorem yearOfEra_le_succ (doe : Int) (h0 : 0 ≤ doe) (h1 : doe < 146096)
    : yearOfEra doe ≤ yearOfEra (doe + 1) := by
  unfold yearOfEra
  apply Int.ediv_le_ediv (by norm_num)
  have cycles : doe / 1460 ≤ (doe + 1) / 1460 ∧ (doe + 1) / 1460 ≤ doe / 1460 + 1 := by omega
  have centuries : doe / 36524 ≤ (doe + 1) / 36524 := by omega
  have eraEnd : (doe + 1) / 146096 = if doe + 1 = 146096 then 1 else 0 := by
    split_ifs <;> omega
  have eraStart : doe / 146096 = 0 := by omega
  have lastCentury : doe + 1 = 146096 → (doe + 1) / 36524 = doe / 36524 + 1 := by omega
  rw [eraEnd, eraStart]
  split_ifs with h <;> omega

theorem dayOfYear_bounds (z : Int) : 0 ≤ dayOfYear (dayOfEra z) ∧ dayOfYear (dayOfEra z) ≤ 365 :=
  (yearOfEra_bounds _ (dayOfEra_bounds z).1 (dayOfEra_bounds z).2).2

-----------------------------------------------------------------------------------------
-- Months and days of a year counted from 1 March
-----------------------------------------------------------------------------------------

theorem marchMonth_bounds (doy : Int) (h0 : 0 ≤ doy) (h1 : doy ≤ 365)
    : (0 ≤ marchMonth doy ∧ marchMonth doy ≤ 11) ∧ (1 ≤ monthDay doy ∧ monthDay doy ≤ 31) := by
  unfold monthDay marchMonth
  omega

theorem marchCode_bounds (doy : Int) (h0 : 0 ≤ doy) (h1 : doy ≤ 365)
    : 301 ≤ marchCode doy ∧ marchCode doy ≤ 10229 := by
  have parts := marchMonth_bounds doy h0 h1
  unfold marchCode
  split_ifs with h
  · -- March to December
    omega
  · -- January and February of the next year: at most 29 February
    have : marchMonth doy = 10 ∨ marchMonth doy = 11 := by omega
    rcases this with january | february
    · unfold monthDay
      rw [january]
      omega
    · unfold monthDay
      rw [february]
      unfold marchMonth at february
      omega

/-- Within a year counted from 1 March the date code of the next day is larger: the next day
is in the same month, one day later, or the first of the next month. -/
theorem marchCode_lt_succ (doy : Int) (h0 : 0 ≤ doy) (h1 : doy < 365)
    : marchCode doy < marchCode (doy + 1) := by
  have now := marchMonth_bounds doy h0 (by omega)
  have next := marchMonth_bounds (doy + 1) (by omega) (by omega)
  have step : marchMonth (doy + 1) = marchMonth doy
      ∨ marchMonth (doy + 1) = marchMonth doy + 1 := by
    unfold marchMonth
    omega
  rcases step with same | later
  · have dayAfter : monthDay (doy + 1) = monthDay doy + 1 := by
      unfold monthDay
      rw [same]
      omega
    unfold marchCode
    rw [same, dayAfter]
    omega
  · unfold marchCode
    rw [later]
    split_ifs <;> omega

-----------------------------------------------------------------------------------------
-- The date code
-----------------------------------------------------------------------------------------

/-- The date code of a day number from its era, its year of the era and its day of the year. -/
theorem dayCode_eq (z : Int) : dayCode z
    = 10000 * (400 * eraOf z + yearOfEra (dayOfEra z)) + marchCode (dayOfYear (dayOfEra z)) := by
  have doy := dayOfYear_bounds z
  have ⟨mp, md⟩ := marchMonth_bounds _ doy.1 doy.2
  rw [dayCode, civilFromDays_eq]
  dsimp only
  unfold marchCode
  generalize marchMonth (dayOfYear (dayOfEra z)) = m at mp ⊢
  generalize monthDay (dayOfYear (dayOfEra z)) = d at md ⊢
  split_ifs <;> omega

/-- The month of a civil date is from 1 to 12 and its day from 1 to 31. -/
theorem civilFromDays_bounds (z : Int)
    : (1 ≤ (civilFromDays z).2.1 ∧ (civilFromDays z).2.1 ≤ 12)
      ∧ (1 ≤ (civilFromDays z).2.2 ∧ (civilFromDays z).2.2 ≤ 31) := by
  have doy := dayOfYear_bounds z
  have ⟨mp, md⟩ := marchMonth_bounds _ doy.1 doy.2
  rw [civilFromDays_eq]
  dsimp only
  split_ifs <;> omega

/-- The date code of the next day is larger. By `dayOfEra_succ`: at the end of an era the
year of the era falls from 399 to 0 while the era gains 400 years; within an era the year of
the era grows, or stays and the day of the year grows. -/
theorem dayCode_lt_succ (z : Int) : dayCode z < dayCode (z + 1) := by
  rw [dayCode_eq, dayCode_eq]
  obtain ⟨lo, hi⟩ := dayOfEra_bounds z
  rcases dayOfEra_succ z with ⟨within, sameEra, nextDay⟩ | ⟨last, nextEra, firstDay⟩
  · rw [sameEra, nextDay]
    have ⟨_, doy⟩ := yearOfEra_bounds _ lo hi
    have ⟨_, doy'⟩ := yearOfEra_bounds (dayOfEra z + 1) (by omega) (by omega)
    have code := marchCode_bounds _ doy.1 doy.2
    have code' := marchCode_bounds _ doy'.1 doy'.2
    rcases (yearOfEra_le_succ _ lo within).lt_or_eq with newYear | sameYear
    · -- a new year: 10000 more, against a code of a year's day that stays within 10229
      omega
    · -- the same year: the day of the year is the next one
      have nextDoy : dayOfYear (dayOfEra z + 1) = dayOfYear (dayOfEra z) + 1 := by
        unfold dayOfYear
        rw [← sameYear]
        omega
      rw [← sameYear, nextDoy]
      have := marchCode_lt_succ (dayOfYear (dayOfEra z)) doy.1 (by omega)
      omega
  · rw [last, nextEra, firstDay]
    have lastYear : yearOfEra 146096 = 399 := by decide
    have lastCode := marchCode_bounds (dayOfYear 146096) (by decide) (by decide)
    have firstYear : yearOfEra 0 = 0 := by decide
    have firstCode : marchCode (dayOfYear 0) = 301 := by decide
    rw [lastYear, firstYear, firstCode]
    omega

/-- The date code is strictly increasing in the day number. -/
theorem dayCode_strictMono : StrictMono dayCode :=
  strictMono_int_of_lt_succ dayCode_lt_succ

-----------------------------------------------------------------------------------------
-- Calendar days of moments
-----------------------------------------------------------------------------------------

namespace Moment

/-- The day number of a moment in its zone. -/
def dayNumber (t : Moment) : Int := (t.seconds + t.zone.offset) / 86400

/-- A moment's calendar day is the date code of its day number. -/
theorem calendarDay_eq (t : Moment) : t.calendarDay = dayCode t.dayNumber := rfl

/-- One moment is on the same calendar day as another or an earlier one exactly when its day
number is at most the other's. -/
theorem calendarDay_le_iff (t u : Moment) : t.calendarDay ≤ u.calendarDay ↔ t.dayNumber ≤ u.dayNumber := by
  rw [calendarDay_eq, calendarDay_eq]
  exact dayCode_strictMono.le_iff_le

end Moment

end Conform.Calendar
