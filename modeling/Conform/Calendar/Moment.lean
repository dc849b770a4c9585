import Conform.Number.Shortest
/-!
Moments in time on the proleptic Gregorian calendar. A moment is a count of seconds and
nanoseconds from 1970-01-01T00:00:00 UTC, shown in a zone that is a fixed offset from UTC;
its civil date and clock follow from the count and the offset. Moments compare as instants,
whatever zone shows them.
-/

namespace Conform.Calendar

/-- A zone: a fixed offset east of UTC in seconds and its abbreviation, empty when it has
none. -/
structure Zone where
  offset : Int
  name : String
  deriving Repr, DecidableEq, Inhabited

/-- Coordinated universal time. -/
def Zone.utc : Zone := ⟨0, "UTC"⟩

/-- An instant and the zone it is shown in. -/
structure Moment where
  /-- Seconds since 1970-01-01T00:00:00 UTC. -/
  seconds : Int
  nanosecond : Nat
  zone : Zone
  deriving Repr, DecidableEq, Inhabited

/-- A civil date and time of day. -/
structure Civil where
  year : Int
  month : Nat
  day : Nat
  hour : Nat
  minute : Nat
  second : Nat
  deriving Repr, DecidableEq, Inhabited

/-- Whether a year of the Gregorian calendar has 29 February. -/
def isLeapYear (y : Int) : Bool := y % 4 == 0 && (y % 100 != 0 || y % 400 == 0)

/-- The number of days of a month in a year. -/
def daysInMonth (month : Nat) (year : Int) : Nat :=
  match month with
  | 2 => if isLeapYear year then 29 else 28
  | 4 | 6 | 9 | 11 => 30
  | _ => 31

/-- The day number of a civil date, counted from 1970-01-01. -/
def daysFromCivil (y : Int) (m d : Nat) : Int :=
  let y := if m ≤ 2 then y - 1 else y
  let era := y / 400
  let yoe := y - era * 400
  let mp : Int := if m > 2 then (m : Int) - 3 else (m : Int) + 9
  let doy := (153 * mp + 2) / 5 + d - 1
  let doe := yoe * 365 + yoe / 4 - yoe / 100 + doy
  era * 146097 + doe - 719468

/-- The civil date of a day number counted from 1970-01-01. -/
def civilFromDays (z : Int) : Int × Nat × Nat :=
  let z := z + 719468
  let era := z / 146097
  let doe := z - era * 146097
  let yoe := (doe - doe / 1460 + doe / 36524 - doe / 146096) / 365
  let y := yoe + era * 400
  let doy := doe - (365 * yoe + yoe / 4 - yoe / 100)
  let mp := (5 * doy + 2) / 153
  let d := doy - (153 * mp + 2) / 5 + 1
  let m := if mp < 10 then mp + 3 else mp - 9
  ((if m ≤ 2 then y + 1 else y), m.toNat, d.toNat)

namespace Moment

/-- The moment of a civil date and clock read in a zone. -/
def ofCivil (c : Civil) (nanosecond : Nat) (zone : Zone) : Moment :=
  let wall := daysFromCivil c.year c.month c.day * 86400 + c.hour * 3600 + c.minute * 60 + c.second
  ⟨wall - zone.offset, nanosecond, zone⟩

/-- The civil date and clock of a moment in its zone. -/
def civil (t : Moment) : Civil :=
  let wall := t.seconds + t.zone.offset
  let days := wall / 86400
  let rest := (wall % 86400).toNat
  let (y, m, d) := civilFromDays days
  ⟨y, m, d, rest / 3600, rest % 3600 / 60, rest % 60⟩

/-- The same instant shown in another zone. -/
def inZone (t : Moment) (zone : Zone) : Moment := { t with zone }

/-- Order two moments as instants. -/
def compare (a b : Moment) : Ordering :=
  match Ord.compare a.seconds b.seconds with
  | .eq => Ord.compare a.nanosecond b.nanosecond
  | o => o

/-- Whether a moment is strictly earlier than another. -/
def before (a b : Moment) : Bool := compare a b == .lt

/-- A civil date as one number `yyyymmdd`, which orders dates as the calendar does. -/
def calendarDay (t : Moment) : Int :=
  let c := t.civil
  c.year * 10000 + c.month * 100 + c.day

end Moment

end Conform.Calendar
