import Conform.DataType.Basic
import Conform.Text.Email
import Conform.Text.Uuid
/-!
The shorthand rules a type's settings give, in order, with their descriptions. Lengths count
characters. Number bounds are inclusive float comparisons and are written positionally; decimal
bounds compare exactly; a date's earliest moment compares instants while its latest day
compares calendar days in the bound's own zone. A choice compares a value's text, which for a
value that is not a text is its display text.
-/

namespace Conform

open Conform.Number Conform.Calendar

namespace Rule

/-- At least `n` characters. -/
def minLength (n : Int) : Rule :=
  forText "minLength" ("Minimum length " ++ toString n) fun s => (s.length : Int) ≥ n

/-- At most `n` characters. -/
def maxLength (n : Int) : Rule :=
  forText "maxLength" ("Maximum length " ++ toString n) fun s => (s.length : Int) ≤ n

/-- A plain email address. -/
def email : Rule := forText "email" "Must be a valid email" Text.isEmailAddress

/-- An absolute URL with a host. -/
def url : Rule := forText "url" "Must be a valid url" Text.isAbsoluteUrl

/-- A UUID in canonical form. -/
def uuid : Rule := forText "uuid" "Must be a valid uuid" Text.isUuid

/-- Not below a bound. -/
def atLeast (bound : Float) : Rule :=
  forNumber "min" ("Minimum " ++ formatFloat .positional bound) .float64 fun x => x ≥ bound

/-- Not above a bound. -/
def atMost (bound : Float) : Rule :=
  forNumber "max" ("Maximum " ++ formatFloat .positional bound) .float64 fun x => x ≤ bound

/-- A whole number (infinities count as whole). -/
def wholeNumber : Rule :=
  forNumber "integer" "Must be a whole number" .float64 fun x => x == x.floor

/-- A finite number with at most two places in its shortest decimal form. -/
def currency : Rule :=
  forNumber "currency" "Must be a currency amount" .float64 fun x =>
    Value.isFiniteFloat x && (Decimal.ofFloat x).places ≤ 2

/-- A rule on a value read as an exact decimal. -/
def forDecimal (name description : String) (test : Decimal → Bool) : Rule :=
  ofTest name description fun v =>
    match v.toDecimal? with
    | some d => test d
    | none => false

/-- Not below a decimal bound. -/
def decimalAtLeast (bound : Decimal) : Rule :=
  forDecimal "min" ("Minimum " ++ bound.toString) fun d => Decimal.compare d bound != .lt

/-- Not above a decimal bound. -/
def decimalAtMost (bound : Decimal) : Rule :=
  forDecimal "max" ("Maximum " ++ bound.toString) fun d => Decimal.compare d bound != .gt

/-- At most `n` places after the point. -/
def decimalPlaces (n : Int) : Rule :=
  forDecimal "decimalPlaces" (toString n ++ " decimal places") fun d => (d.places : Int) ≤ n

/-- The layouts a date may be written in: a full timestamp, then a date alone. -/
def dateLayouts : List Layout := [Layout.rfc3339, Layout.dateOnly]

/-- A value read as a moment: a moment, a reference to one, or a text in a date layout. -/
def Value.toMoment? : Value → Option Moment
  | .moment t => some t
  | .ref (.moment t) => some t
  | .text s => readFirst? dateLayouts s
  | _ => none

/-- A rule on a value read as a moment. -/
def forMoment (name description : String) (test : Moment → Bool) : Rule :=
  ofTest name description fun v =>
    match Value.toMoment? v with
    | some t => test t
    | none => false

/-- Not before a moment. -/
def earliest (bound : Moment) : Rule :=
  forMoment "min" ("Earliest " ++ bound.dayMonthYear) fun t => !t.before bound

/-- Not after the calendar day of a moment, in the moment's zone. -/
def latest (bound : Moment) : Rule :=
  forMoment "max" ("Latest " ++ bound.dayMonthYear) fun t =>
    (t.inZone bound.zone).calendarDay ≤ bound.calendarDay

/-- How many display names a choice's description shows. -/
def shownChoices : Nat := 10

/-- One of a list of values, compared as texts. -/
def oneOf (values names : List String) : Rule :=
  let shown := DataType.choiceNames values names
  let desc := "One of: " ++ ", ".intercalate (shown.take shownChoices) ++
    (if shown.length > shownChoices then ", ..." else "")
  ofTest "valueIn" desc fun v =>
    let s := match v with
      | .text s => s
      | other => other.display
    values.contains s

end Rule

namespace DataType

/-- The rules a type's settings give, in order. -/
def shorthand : DataType → List Rule
  | .text _ minLength maxLength format =>
    (minLength.map Rule.minLength).toList ++ (maxLength.map Rule.maxLength).toList ++
      (if format == "email" then [Rule.email]
       else if format == "url" then [Rule.url]
       else if format == "uuid" then [Rule.uuid]
       else [])
  | .number _ min max format =>
    (min.map Rule.atLeast).toList ++ (max.map Rule.atMost).toList ++
      (if format == "integer" then [Rule.wholeNumber]
       else if format == "currency" then [Rule.currency]
       else [])
  | .decimal _ min max places =>
    (min.map Rule.decimalAtLeast).toList ++ (max.map Rule.decimalAtMost).toList ++
      (places.map Rule.decimalPlaces).toList
  | .date _ min max => (min.map Rule.earliest).toList ++ (max.map Rule.latest).toList
  | .choice _ values names => if values.isEmpty then [] else [Rule.oneOf values names]
  | .trueFalse _ | .list .. | .record .. => []

/-- The rules checked on a present value: the shorthand rules, then the custom rules. -/
def rules (t : DataType) : List Rule := t.shorthand ++ t.basics.custom

/-- The descriptions of a type's rules: `Required` or `Optional` first, then those of the
rules checked on a present value. -/
def ruleDescriptions (t : DataType) : List String :=
  (if t.required then "Required" else "Optional") :: t.rules.map (·.description)

end DataType

end Conform
