import Conform.Number.Layout
import Conform.Number.Reading
/-!
Exact decimals: an integer coefficient times a power of ten. A decimal is read from text with an
optional exponent, written back without trailing zeros after its point, made from a binary float
through the float's shortest digits, and compared by value.
-/

namespace Conform.Number

/-- The decimal `coefficient · 10^exponent`. -/
structure Decimal where
  coefficient : Int
  exponent : Int
  deriving Repr, DecidableEq, Inhabited

namespace Decimal

/-- Why a text is not a decimal. -/
inductive ReadError where
  /-- The exponent after `e` is not a 32-bit number. -/
  | exponentNotNumeric (text : String)
  /-- The exponent does not fit in 32 bits. -/
  | exponentTooLarge (text : String)
  /-- Two points. -/
  | tooManyPoints (text : String)
  /-- The digits are not a number. -/
  | notNumber (text : String)
  deriving Repr, DecidableEq

/-- The text of a reading error. -/
def ReadError.message : ReadError → String
  | .exponentNotNumeric s => "can't convert " ++ s ++ " to decimal: exponent is not numeric"
  | .exponentTooLarge s => "can't convert " ++ s ++ " to decimal: fractional part too long"
  | .tooManyPoints s => "can't convert " ++ s ++ " to decimal: too many .s"
  | .notNumber s => "can't convert " ++ s ++ " to decimal"

/-- Read signed decimal digits: an optional sign and at least one digit. -/
def readCoefficient (s : String) : Option Int :=
  if s.length ≤ 18 then
    match readInt s 10 64 with
    | .ok n => some n
    | .error _ => none
  else
    let cs := s.toList
    let (negative, digits) := match cs with
      | '+' :: rest => (false, rest)
      | '-' :: rest => (true, rest)
      | _ => (false, cs)
    if digits.isEmpty || !digits.all Char.isDigit then none
    else
      let n : Int := digits.foldl (fun n c => n * 10 + digitValue c) 0
      some (if negative then -n else n)

/-- The text before the first `e` or `E`, and the exponent after it read as a 32-bit number; the
whole text and zero when there is no `e`. -/
def splitExponent (text : String) : Except ReadError (List Char × Int) :=
  let cs := text.toList
  match cs.findIdx? (fun c => c == 'e' || c == 'E') with
  | none => .ok (cs, 0)
  | some i =>
    match readInt (String.ofList (cs.drop (i + 1))) 10 32 with
    | .ok e => .ok (cs.take i, e)
    | .error .range => .error (.exponentTooLarge text)
    | .error .malformed => .error (.exponentNotNumeric text)

/-- Digits with their point taken out, and the exponent less the digits after the point. -/
def dropPoint (body : List Char) (exp : Int) : List Char × Int :=
  match body.findIdx? (· == '.') with
  | none => (body, exp)
  | some p => (body.take p ++ body.drop (p + 1), exp - (body.length - p - 1 : Nat))

/-- Read a decimal: digits with at most one point, then optionally `e` or `E` and an exponent. -/
def ofString (text : String) : Except ReadError Decimal :=
  match splitExponent text with
  | .error e => .error e
  | .ok (body, exp) =>
    let value := String.ofList body
    if (body.filter (· == '.')).length > 1 then .error (.tooManyPoints value)
    else
      let (digits, exp) := dropPoint body exp
      match readCoefficient (String.ofList digits) with
      | none => .error (.notNumber value)
      | some n =>
        if exp < -2147483648 || exp > 2147483647 then .error (.exponentTooLarge text)
        else .ok ⟨n, exp⟩

/-- A whole number as a decimal. -/
def ofInt (n : Int) : Decimal := ⟨n, 0⟩

/-- The decimal of a finite float value: its shortest digits. -/
def ofFloatValue (maxDigits : Nat) (v : FloatValue) : Decimal :=
  match v with
  | .finite negative m _ _ =>
    if m == 0 then ⟨0, 0⟩
    else
      let d := v.shortest maxDigits
      ⟨if negative then -(d.digits : Int) else d.digits, d.exponent⟩
  | _ => ⟨0, 0⟩

/-- The decimal of a finite 64-bit float's shortest digits. -/
def ofFloat (x : Float) : Decimal := ofFloatValue 17 (valueOf x)

/-- The decimal of a finite 32-bit float's shortest digits. -/
def ofFloat32 (x : Float32) : Decimal := ofFloatValue 9 (valueOf32 x)

/-- The text of a decimal: its digits with a point where the exponent puts it, and no trailing
zeros after the point; a decimal with no point at all when the exponent is not negative. -/
def toString (d : Decimal) : String :=
  if d.exponent ≥ 0 then
    let n := d.coefficient * Int.pow 10 d.exponent.toNat
    (if n < 0 then "-" else "") ++ String.ofList (decimalDigits n.natAbs)
  else
    let ds := decimalDigits d.coefficient.natAbs
    let places := (-d.exponent).toNat
    let (whole, fraction) :=
      if ds.length > places then (ds.take (ds.length - places), ds.drop (ds.length - places))
      else (['0'], List.replicate (places - ds.length) '0' ++ ds)
    let fraction := (fraction.reverse.dropWhile (· == '0')).reverse
    let number := if fraction.isEmpty then whole else whole ++ '.' :: fraction
    (if d.coefficient < 0 then "-" else "") ++ String.ofList number

/-- The number of digits after the point in a decimal's text. -/
def places (d : Decimal) : Nat :=
  let s := d.toString.toList
  match s.findIdx? (· == '.') with
  | none => 0
  | some i => s.length - i - 1

/-- The exponent of a nonzero decimal's leading digit. -/
def leadingExponent (d : Decimal) : Int :=
  d.exponent + (decimalDigits d.coefficient.natAbs).length - 1

/-- Compare two decimals by value. -/
def compare (a b : Decimal) : Ordering :=
  if a.coefficient == 0 || b.coefficient == 0 || (a.coefficient < 0) != (b.coefficient < 0) then
    Ord.compare (Int.sign a.coefficient) (Int.sign b.coefficient)
  else
    -- same sign: compare magnitudes, first by the leading digit's place
    let magnitude : Ordering :=
      if a.leadingExponent != b.leadingExponent then
        Ord.compare a.leadingExponent b.leadingExponent
      else
        let e := min a.exponent b.exponent
        Ord.compare (a.coefficient.natAbs * Nat.pow 10 (a.exponent - e).toNat)
          (b.coefficient.natAbs * Nat.pow 10 (b.exponent - e).toNat)
    if a.coefficient < 0 then magnitude.swap else magnitude

/-- The 64-bit float nearest to a decimal. A decimal of `10^310` or more is beyond the largest
float and one below `10^-325` is below half the smallest, so those are infinite or zero without
computing the power. -/
def toFloat (d : Decimal) : Float :=
  let n := d.coefficient.natAbs
  if n == 0 then 0
  else if d.leadingExponent > 309 then
    Float.ofBits (FloatFormat.double.infinityBits (d.coefficient < 0)).toUInt64
  else if d.leadingExponent < -325 then (floatOfRational (d.coefficient < 0) 0 1).1
  else
    let (a, b) := powTen d.exponent
    (floatOfRational (d.coefficient < 0) (n * a) b).1

end Decimal

end Conform.Number
