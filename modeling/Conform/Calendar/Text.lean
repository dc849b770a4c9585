import Conform.Calendar.Moment
/-! Reading and writing moments by layouts of fields, with the ranges checked once the whole text
is read.
-/

namespace Conform.Calendar

/-- A field of a layout. -/
inductive LayoutField where
  /-- Text that must stand there; a space stands for one or more spaces. -/
  | literal (text : String)
  | year
  | month (fixed : Bool)
  | day (fixed : Bool)
  | hour
  | minute (fixed : Bool)
  /-- Seconds, and a fraction after a point or comma when one follows. -/
  | second (fixed : Bool)
  | zone
  deriving Repr, DecidableEq

/-- A layout for reading. -/
abbrev Layout := List LayoutField

namespace Layout

/-- `2006-01-02T15:04:05.999999999Z07:00`: a date, `T`, a clock with fraction, and a zone. -/
def rfc3339 : Layout :=
  [.year, .literal "-", .month true, .literal "-", .day true, .literal "T", .hour,
    .literal ":", .minute true, .literal ":", .second true, .zone]

/-- `2006-01-02`: a date alone. -/
def dateOnly : Layout := [.year, .literal "-", .month true, .literal "-", .day true]

/-- A date whose month and day may have one digit, a separator, a clock whose fields may have
one digit, and a zone. -/
def shortDateTime (separator : String) : Layout :=
  [.year, .literal "-", .month false, .literal "-", .day false, .literal separator, .hour,
    .literal ":", .minute false, .literal ":", .second false, .zone]

/-- A date whose month and day may have one digit, spaces, and a clock with no zone. -/
def shortDateClock : Layout :=
  [.year, .literal "-", .month false, .literal "-", .day false, .literal " ", .hour,
    .literal ":", .minute false, .literal ":", .second false]

/-- A date whose month and day may have one digit. -/
def shortDate : Layout := [.year, .literal "-", .month false, .literal "-", .day false]

end Layout

/-- The fields read so far. -/
structure Reading where
  year : Int := 1
  month : Nat := 1
  day : Nat := 1
  hour : Nat := 0
  minute : Nat := 0
  second : Nat := 0
  nanosecond : Nat := 0
  /-- The zone read: none, `Z`, or an offset in seconds. -/
  zone : Option (Option Int) := none
  outOfRange : Bool := false

/-- The value of a decimal digit. -/
def digitOf (c : Char) : Nat := c.toNat - '0'.toNat

/-- One or two digits at the front of a text; `fixed` asks for two. -/
def twoDigits (fixed : Bool) : List Char → Option (Nat × List Char)
  | a :: b :: rest =>
    if !a.isDigit then none
    else if b.isDigit then some (digitOf a * 10 + digitOf b, rest)
    else if fixed then none
    else some (digitOf a, b :: rest)
  | [a] => if a.isDigit && !fixed then some (digitOf a, []) else none
  | [] => none

/-- Drop leading spaces. -/
def dropSpaces (s : List Char) : List Char := s.dropWhile (· == ' ')

/-- Match literal layout text at the front of a text; a run of spaces in the layout matches any
run of spaces, and none at the end of the text. -/
def matchLiteral (afterSpace : Bool) : List Char → List Char → Option (List Char)
  | [], s => some s
  | c :: p, s =>
    if c == ' ' then
      if afterSpace then matchLiteral true p s
      else
        match s with
        | d :: _ => if d != ' ' then none else matchLiteral true p (dropSpaces s)
        | [] => matchLiteral true p []
    else
      match s with
      | d :: rest => if c == d then matchLiteral false p rest else none
      | [] => none

/-- The nanoseconds of a fraction's digits: the first nine, scaled to nine places. -/
def nanosOf (digits : List Char) : Nat :=
  let ds := digits.take 9
  ds.foldl (fun n c => n * 10 + digitOf c) 0 * Nat.pow 10 (9 - ds.length)

/-- Read one field. -/
def readField (r : Reading) (s : List Char) : LayoutField → Option (Reading × List Char)
  | .literal text => (matchLiteral false text.toList s).map (r, ·)
  | .year =>
    match s with
    | a :: b :: c :: d :: rest =>
      if [a, b, c, d].all Char.isDigit then
        some ({ r with year := ([a, b, c, d].foldl (fun n c => n * 10 + digitOf c) 0 : Nat) }, rest)
      else none
    | _ => none
  | .month fixed => (twoDigits fixed s).map fun (m, rest) =>
    ({ r with month := m, outOfRange := r.outOfRange || m == 0 || m > 12 }, rest)
  | .day fixed => (twoDigits fixed s).map fun (d, rest) => ({ r with day := d }, rest)
  | .hour => (twoDigits false s).map fun (h, rest) =>
    ({ r with hour := h, outOfRange := r.outOfRange || h ≥ 24 }, rest)
  | .minute fixed => (twoDigits fixed s).map fun (m, rest) =>
    ({ r with minute := m, outOfRange := r.outOfRange || m ≥ 60 }, rest)
  | .second fixed =>
    match twoDigits fixed s with
    | none => none
    | some (sec, rest) =>
      if sec ≥ 60 then some ({ r with second := sec, outOfRange := true }, rest)
      else
        match rest with
        | p :: d :: more =>
          if (p == '.' || p == ',') && d.isDigit then
            let digits := (d :: more).takeWhile Char.isDigit
            some ({ r with second := sec, nanosecond := nanosOf digits },
              (d :: more).drop digits.length)
          else some ({ r with second := sec }, rest)
        | _ => some ({ r with second := sec }, rest)
  | .zone =>
    match s with
    | 'Z' :: rest => some ({ r with zone := some none }, rest)
    | sign :: h1 :: h2 :: colon :: m1 :: m2 :: rest =>
      if colon != ':' then none
      else
        match twoDigits true [h1, h2], twoDigits true [m1, m2] with
        | some (h, _), some (m, _) =>
          if sign != '+' && sign != '-' then none
          else
            let offset : Int := ((h * 60 + m) * 60 : Nat)
            some ({ r with zone := some (some (if sign == '-' then -offset else offset)),
                           outOfRange := r.outOfRange || h > 24 || m > 60 }, rest)
        | _, _ => none
    | _ => none

/-- Read the fields of a layout in turn. -/
def readFields (r : Reading) (s : List Char) : Layout → Option (Reading × List Char)
  | [] => some (r, s)
  | f :: fs =>
    match readField r s f with
    | some (r, rest) => readFields r rest fs
    | none => none

/-- Read a whole text by a layout. -/
def Layout.read? (layout : Layout) (text : String) : Option Moment :=
  match readFields {} text.toList layout with
  | some (r, []) =>
    if r.outOfRange || r.day < 1 || r.day > daysInMonth r.month r.year then none
    else
      let zone : Zone := match r.zone with
        | some (some offset) => if offset == 0 then Zone.utc else ⟨offset, ""⟩
        | _ => Zone.utc
      some (Moment.ofCivil ⟨r.year, r.month, r.day, r.hour, r.minute, r.second⟩ r.nanosecond zone)
  | _ => none

/-- Read a text by the first of several layouts that reads it. -/
def readFirst? (layouts : List Layout) (text : String) : Option Moment :=
  layouts.findSome? (·.read? text)

/-! ## Writing -/

/-- Digits of a natural number padded with zeros to a width. -/
def padded (width n : Nat) : String :=
  let ds := Nat.toDigits 10 n
  String.ofList (List.replicate (width - ds.length) '0' ++ ds)

/-- A year in at least four digits, with a minus sign before it when negative. -/
def yearText (y : Int) : String := (if y < 0 then "-" else "") ++ padded 4 y.natAbs

/-- The fraction of a second after a point, without trailing zeros; empty for none. -/
def fractionText (nanos : Nat) : String :=
  if nanos == 0 then ""
  else
    let ds := (Nat.toDigits 10 nanos)
    let ds := List.replicate (9 - ds.length) '0' ++ ds
    "." ++ String.ofList (ds.reverse.dropWhile (· == '0')).reverse

/-- A zone offset as `+hh:mm` or `+hhmm`. -/
def offsetText (offset : Int) (colon : Bool) : String :=
  let minutes := offset.natAbs / 60
  (if offset < 0 then "-" else "+") ++ padded 2 (minutes / 60) ++ (if colon then ":" else "") ++
    padded 2 (minutes % 60)

/-- The month names of the calendar, three letters each. -/
def monthAbbreviation (m : Nat) : String :=
  (["Jan", "Feb", "Mar", "Apr", "May", "Jun", "Jul", "Aug", "Sep", "Oct", "Nov", "Dec"][m - 1]?).getD "???"

namespace Moment

/-- `2006-01-02T15:04:05.999999999Z07:00`: the fraction without trailing zeros, `Z` for a zero
offset. -/
def rfc3339 (t : Moment) : String :=
  let c := t.civil
  yearText c.year ++ "-" ++ padded 2 c.month ++ "-" ++ padded 2 c.day ++ "T" ++ padded 2 c.hour ++
    ":" ++ padded 2 c.minute ++ ":" ++ padded 2 c.second ++ fractionText t.nanosecond ++
    (if t.zone.offset == 0 then "Z" else offsetText t.zone.offset true)

/-- `02 Jan 2006`: day, month abbreviation and year. -/
def dayMonthYear (t : Moment) : String :=
  let c := t.civil
  padded 2 c.day ++ " " ++ monthAbbreviation c.month ++ " " ++ yearText c.year

/-- `2006-01-02 15:04:05.999999999 -0700 MST`: the zone's abbreviation, or its offset again when it
has none. -/
def display (t : Moment) : String :=
  let c := t.civil
  yearText c.year ++ "-" ++ padded 2 c.month ++ "-" ++ padded 2 c.day ++ " " ++ padded 2 c.hour ++
    ":" ++ padded 2 c.minute ++ ":" ++ padded 2 c.second ++ fractionText t.nanosecond ++ " " ++
    offsetText t.zone.offset false ++ " " ++
    (if t.zone.name.isEmpty then offsetText t.zone.offset false else t.zone.name)

end Moment

end Conform.Calendar
