import Mathlib
import Conform.Proofs.CalendarOrder
import Conform.DataType.Rules
/-! A moment passes a date type's earliest bound exactly when its instant is not before the
bound's, and its latest bound exactly when its civil date in the bound's zone is on or before
the bound's, for moments of every year.
-/

namespace Conform.Calendar

-----------------------------------------------------------------------------------------
-- Instants and days
-----------------------------------------------------------------------------------------

namespace Moment

/-- The instant of a moment, in nanoseconds from 1970-01-01T00:00:00 UTC. -/
def instant (t : Moment) : Int := t.seconds * 1000000000 + t.nanosecond

/-- The first instant of the calendar day after a moment's own, in its zone. -/
def nextDay (t : Moment) : Moment := ⟨(t.dayNumber + 1) * 86400 - t.zone.offset, 0, t.zone⟩

theorem before_iff_lex (a b : Moment) : a.before b = true
    ↔ a.seconds < b.seconds ∨ (a.seconds = b.seconds ∧ a.nanosecond < b.nanosecond) := by
  unfold before compare
  rcases lt_trichotomy a.seconds b.seconds with earlier | same | later
  · have : Ord.compare a.seconds b.seconds = .lt := compare_lt_iff_lt.mpr earlier
    simp [this, earlier]
  · simp [same, compare_lt_iff_lt]
  · have : Ord.compare a.seconds b.seconds = .gt := compare_gt_iff_gt.mpr later
    simp [this, not_lt.mpr later.le, later.ne']

/-- Between moments whose nanoseconds lie within their seconds, "before" is the order of their
instants. -/
theorem before_iff_instant_lt {a b : Moment} (withinA : a.nanosecond < 1000000000)
    (withinB : b.nanosecond < 1000000000) : a.before b = true ↔ a.instant < b.instant := by
  rw [before_iff_lex]
  unfold instant
  omega

/-- A moment falls on a zone's day of another moment, or an earlier one, exactly when it comes
before the first instant of the next day there. -/
theorem dayNumber_le_iff_lt_nextDay (t u : Moment) (within : t.nanosecond < 1000000000)
    : (t.inZone u.zone).dayNumber ≤ u.dayNumber ↔ t.instant < u.nextDay.instant := by
  simp only [dayNumber, inZone, nextDay, instant]
  generalize (u.seconds + u.zone.offset) / 86400 = day
  omega

end Moment

/-- A civil date is on or before another: its year is earlier, or its month of the same year,
or its day of the same month is not later. The clocks are not compared. -/
def Civil.onOrBefore (a b : Civil) : Prop :=
  a.year < b.year ∨ (a.year = b.year ∧ (a.month < b.month ∨ (a.month = b.month ∧ a.day ≤ b.day)))

instance (a b : Civil) : Decidable (a.onOrBefore b) :=
  inferInstanceAs (Decidable (_ ∨ _))

namespace Moment

theorem civil_bounds (t : Moment)
    : (1 ≤ t.civil.month ∧ t.civil.month ≤ 12) ∧ (1 ≤ t.civil.day ∧ t.civil.day ≤ 31) :=
  civilFromDays_bounds t.dayNumber

/-- Date codes order civil dates as the calendar does, since a month is at most 12 and a day at
most 31. -/
theorem calendarDay_le_iff_onOrBefore (t u : Moment)
    : t.calendarDay ≤ u.calendarDay ↔ t.civil.onOrBefore u.civil := by
  have ⟨⟨_, monthT⟩, _, dayT⟩ := civil_bounds t
  have ⟨⟨_, monthU⟩, _, dayU⟩ := civil_bounds u
  unfold calendarDay Civil.onOrBefore
  dsimp only
  omega

end Moment

-----------------------------------------------------------------------------------------
-- Nanoseconds read from a text
-----------------------------------------------------------------------------------------

theorem digitOf_le {c : Char} (digit : c.isDigit = true) : digitOf c ≤ 9 := by
  simp only [Char.isDigit, Bool.and_eq_true, decide_eq_true_eq] at digit
  have zero : '0'.toNat = 48 := rfl
  simp [UInt32.le_iff_toNat_le] at digit
  simp only [digitOf, zero]
  omega

/-- Digits read left to right after a number `n` make less than `n + 1` followed by as many
zeros. -/
theorem foldl_digits_lt (ds : List Char) (digits : ∀ c ∈ ds, c.isDigit = true) (n : Nat)
    : ds.foldl (fun n c => n * 10 + digitOf c) n < (n + 1) * 10 ^ ds.length := by
  induction ds generalizing n with
  | nil => simp
  | cons c more ih =>
    have first := digitOf_le (digits c List.mem_cons_self)
    have rest := ih (fun d member => digits d (List.mem_cons_of_mem c member)) (n * 10 + digitOf c)
    calc (c :: more).foldl (fun n c => n * 10 + digitOf c) n
        = more.foldl (fun n c => n * 10 + digitOf c) (n * 10 + digitOf c) := rfl
      _ < (n * 10 + digitOf c + 1) * 10 ^ more.length := rest
      _ ≤ (n + 1) * 10 * 10 ^ more.length := by gcongr; omega
      _ = (n + 1) * 10 ^ (c :: more).length := by
        rw [List.length_cons, pow_succ]
        ring

/-- A fraction's digits give fewer nanoseconds than a second has. -/
theorem nanosOf_lt (ds : List Char) (digits : ∀ c ∈ ds, c.isDigit = true)
    : nanosOf ds < 1000000000 := by
  have taken : ∀ c ∈ ds.take 9, c.isDigit = true :=
    fun c member => digits c (List.mem_of_mem_take member)
  have short : (ds.take 9).length ≤ 9 := List.length_take_le 9 ds
  have value := foldl_digits_lt (ds.take 9) taken 0
  unfold nanosOf
  simp only [Nat.pow_eq]
  calc (ds.take 9).foldl (fun n c => n * 10 + digitOf c) 0 * 10 ^ (9 - (ds.take 9).length)
      < 10 ^ (ds.take 9).length * 10 ^ (9 - (ds.take 9).length) := by
        apply Nat.mul_lt_mul_of_pos_right (by simpa using value) (by positivity)
    _ = 1000000000 := by
        rw [← pow_add, Nat.add_sub_cancel' short]
        rfl

/-- Reading one field keeps the nanosecond read so far, but for the seconds with a fraction,
which give the nanoseconds of the fraction's digits. -/
theorem readField_nanosecond {r r' : Reading} {s rest : List Char} {f : LayoutField}
    (read : readField r s f = some (r', rest))
    : r'.nanosecond = r.nanosecond
      ∨ ∃ digits : List Char, (∀ c ∈ digits, c.isDigit = true) ∧ r'.nanosecond = nanosOf digits := by
  cases f with
  | second fixed =>
    simp only [readField] at read
    split at read
    · cases read
    · split at read
      · -- seconds out of range: no fraction is read
        cases read
        exact .inl rfl
      · split at read
        · split at read
          · cases read
            exact .inr ⟨_, fun c member => List.mem_takeWhile_imp member, rfl⟩
          · cases read
            exact .inl rfl
        · cases read
          exact .inl rfl
  | literal text =>
    simp only [readField, Option.map_eq_some_iff, Prod.mk.injEq] at read
    obtain ⟨_, _, rfl, _⟩ := read
    exact .inl rfl
  | year =>
    simp only [readField] at read
    split at read
    · split at read
      · cases read
        exact .inl rfl
      · cases read
    · cases read
  | month fixed | day fixed | hour | minute fixed =>
    simp only [readField, Option.map_eq_some_iff, Prod.mk.injEq] at read
    obtain ⟨_, _, rfl, _⟩ := read
    exact .inl rfl
  | zone =>
    simp only [readField] at read
    split at read
    · -- the zone Z
      cases read
      exact .inl rfl
    · split at read
      · cases read
      · split at read
        · split at read
          · cases read
          · -- an offset
            cases read
            exact .inl rfl
        · cases read
    · cases read

/-- Reading the fields of a layout keeps the nanosecond within a second. By induction on the
layout, from `readField_nanosecond` for each field. -/
theorem readFields_nanosecond : ∀ (fs : Layout) {r r' : Reading} {s rest : List Char},
    readFields r s fs = some (r', rest) → r.nanosecond < 1000000000 → r'.nanosecond < 1000000000
  | [], r, r', s, rest, read, within => by
    simp only [readFields, Option.some.injEq, Prod.mk.injEq] at read
    rw [← read.1]
    exact within
  | f :: fs, r, r', s, rest, read, within => by
    simp only [readFields] at read
    split at read
    · rename_i r₁ rest₁ field
      apply readFields_nanosecond fs read
      rcases readField_nanosecond field with same | ⟨ds, digits, fraction⟩
      · rw [same]
        exact within
      · rw [fraction]
        exact nanosOf_lt ds digits
    · cases read

/-- A moment read from a text by a layout has its nanosecond within a second. -/
theorem Layout.read?_nanosecond {layout : Layout} {text : String} {t : Moment}
    (read : layout.read? text = some t) : t.nanosecond < 1000000000 := by
  unfold Layout.read? at read
  split at read
  · rename_i r fields
    split_ifs at read
    cases read
    exact readFields_nanosecond layout fields (by decide)
  · cases read

theorem readFirst?_nanosecond {layouts : List Layout} {text : String} {t : Moment}
    (read : readFirst? layouts text = some t) : t.nanosecond < 1000000000 := by
  obtain ⟨layout, -, byLayout⟩ := List.exists_of_findSome?_eq_some read
  exact Layout.read?_nanosecond byLayout

end Conform.Calendar

namespace Conform

open Calendar

-----------------------------------------------------------------------------------------
-- The rules of a date type
-----------------------------------------------------------------------------------------

theorem Verdict.ofBool_eq_pass (b : Bool) : Verdict.ofBool b = .pass ↔ b = true := by
  cases b <;> decide

namespace Rule

theorem forMoment_check_of {v : Value} {t : Moment} (read : Value.toMoment? v = some t)
    (name description : String) (test : Moment → Bool)
    : (forMoment name description test).check v = .ofBool (test t) := by
  simp only [forMoment, ofTest, read]

theorem forMoment_check_none {v : Value} (unread : Value.toMoment? v = none)
    (name description : String) (test : Moment → Bool)
    : (forMoment name description test).check v = .fail := by
  simp only [forMoment, ofTest, unread]
  rfl

/-- A value the earliest bound reads as a moment within its second passes exactly when its
instant is not before the bound's. -/
theorem earliest_check {v : Value} {t lo : Moment} (read : Value.toMoment? v = some t)
    (within : t.nanosecond < 1000000000) (loWithin : lo.nanosecond < 1000000000)
    : (earliest lo).check v = .pass ↔ lo.instant ≤ t.instant := by
  rw [earliest, forMoment_check_of read, Verdict.ofBool_eq_pass, Bool.not_eq_true',
    ← Bool.not_eq_true, Moment.before_iff_instant_lt within loWithin, not_lt]

/-- A value the latest bound reads as a moment passes exactly when its day number in the
bound's zone is at most the bound's. -/
theorem latest_check {v : Value} {t hi : Moment} (read : Value.toMoment? v = some t)
    : (latest hi).check v = .pass ↔ (t.inZone hi.zone).dayNumber ≤ hi.dayNumber := by
  rw [latest, forMoment_check_of read, Verdict.ofBool_eq_pass, decide_eq_true_iff,
    Moment.calendarDay_le_iff]

end Rule

/-- The bounds of a date type judge every value read as a moment, a text or a moment within its
second, by instants and days: the earliest bound passes it exactly when its instant is not
before the bound's; the latest bound exactly when its instant comes before the first instant of
the day after the bound's day in the bound's zone, and exactly when its civil date in that zone
is on or before the bound's. A text that no date layout reads fails both. -/
theorem dateBounds_exact (lo hi : Moment) (loWithin : lo.nanosecond < 1000000000)
    : (∀ v t, Rule.Value.toMoment? v = some t → ((∃ s, v = .text s) ∨ t.nanosecond < 1000000000) →
        ((Rule.earliest lo).check v = .pass ↔ lo.instant ≤ t.instant)
        ∧ ((Rule.latest hi).check v = .pass ↔ t.instant < hi.nextDay.instant)
        ∧ ((Rule.latest hi).check v = .pass ↔ (t.inZone hi.zone).civil.onOrBefore hi.civil))
      ∧ (∀ s, readFirst? Rule.dateLayouts s = none →
        (Rule.earliest lo).check (.text s) = .fail ∧ (Rule.latest hi).check (.text s) = .fail) := by
  refine ⟨fun v t read textOrWithin => ?_, fun s unread => ?_⟩
  · -- a text read as a moment has its nanosecond within a second
    have within : t.nanosecond < 1000000000 := by
      rcases textOrWithin with ⟨s, rfl⟩ | within
      · exact readFirst?_nanosecond read
      · exact within
    refine ⟨Rule.earliest_check read within loWithin, ?_, ?_⟩
    · rw [Rule.latest_check read]
      exact Moment.dayNumber_le_iff_lt_nextDay t hi within
    · rw [Rule.latest_check read, ← Moment.calendarDay_le_iff]
      exact Moment.calendarDay_le_iff_onOrBefore _ _
  · have unreadText : Rule.Value.toMoment? (.text s) = none := unread
    exact ⟨Rule.forMoment_check_none unreadText _ _ _, Rule.forMoment_check_none unreadText _ _ _⟩

/-- At 23:30 UTC on 31 January 2024 it is already 1 February one hour east of UTC. A moment
then, shown in UTC, passes an earliest bound at 23:30 on 31 January at that offset, and fails a
latest bound at the same moment: its day at the bound's offset is 1 February, past the bound's
31 January. -/
theorem lateEvening_past_latest_at_offset
    : (Rule.earliest ⟨1706740200, 0, ⟨3600, ""⟩⟩).check (.moment ⟨1706743800, 0, Zone.utc⟩) = .pass
      ∧ (Rule.latest ⟨1706740200, 0, ⟨3600, ""⟩⟩).check (.moment ⟨1706743800, 0, Zone.utc⟩)
        ≠ .pass := by
  have judged := (dateBounds_exact ⟨1706740200, 0, ⟨3600, ""⟩⟩ ⟨1706740200, 0, ⟨3600, ""⟩⟩
    (by decide)).1 (.moment ⟨1706743800, 0, Zone.utc⟩) ⟨1706743800, 0, Zone.utc⟩ rfl
    (.inr (by decide))
  refine ⟨judged.1.mpr (by decide), fun passes => ?_⟩
  exact absurd (judged.2.1.mp passes) (by decide)

end Conform
