import Conform.Number.Shortest
/-!
Writing a number from its shortest digits. A layout decides, from the exponent of the leading
digit, whether the digits are written positionally or as a mantissa with an exponent, and how
wide the exponent is. Positional text has no trailing zeros and no point when the number is
whole; scientific text has one digit before its point.
-/

namespace Conform.Number

/-- Where positional text gives way to scientific text, and how an exponent is written. -/
structure FloatLayout where
  /-- Leading-digit exponents below this are written with an exponent. -/
  scientificBelow : Option Int
  /-- Leading-digit exponents from this one on are written with an exponent. -/
  scientificFrom : Option Int
  /-- The least number of digits of a positive exponent. -/
  positiveExponentWidth : Nat
  /-- The least number of digits of a negative exponent. -/
  negativeExponentWidth : Nat
  deriving Repr, DecidableEq

namespace FloatLayout

/-- Always positional. -/
def positional : FloatLayout := ⟨none, none, 2, 2⟩

/-- Positional for leading-digit exponents from -4 to 5, scientific with a two-digit exponent
otherwise: `1e+06`, `0.0001`, `1.5e-05`. -/
def general : FloatLayout := ⟨some (-4), some 6, 2, 2⟩

/-- Positional for magnitudes from 1e-6 below 1e21, scientific otherwise, with a negative
exponent written in as few digits as it has: `1e+21`, `1e-7`. -/
def json : FloatLayout := ⟨some (-6), some 21, 2, 1⟩

/-- Whether a leading-digit exponent is written scientifically. -/
def isScientific (l : FloatLayout) (exp : Int) : Bool :=
  (match l.scientificBelow with | some b => exp < b | none => false) ||
    (match l.scientificFrom with | some f => exp ≥ f | none => false)

end FloatLayout

/-- Pad a digit list with zeros on the left to a width. -/
def padLeft (width : Nat) (cs : List Char) : List Char :=
  List.replicate (width - cs.length) '0' ++ cs

/-- The digits of a decimal written positionally. -/
def ShortDecimal.positional (d : ShortDecimal) : String :=
  if d.digits == 0 then "0"
  else
    let ds := decimalDigits d.digits
    if d.exponent ≥ 0 then String.ofList (ds ++ List.replicate d.exponent.toNat '0')
    else
      let places := (-d.exponent).toNat
      if places < ds.length then
        String.ofList (ds.take (ds.length - places) ++ '.' :: ds.drop (ds.length - places))
      else String.ofList ('0' :: '.' :: padLeft places ds)

/-- The exponent of the leading digit of a nonzero decimal. -/
def ShortDecimal.leadingExponent (d : ShortDecimal) : Int :=
  d.exponent + (decimalDigits d.digits).length - 1

/-- The digits of a decimal written with one digit before the point and an exponent. -/
def ShortDecimal.scientific (l : FloatLayout) (d : ShortDecimal) : String :=
  let ds := decimalDigits d.digits
  let exp := if d.digits == 0 then 0 else d.leadingExponent
  let mantissa := match ds with
    | [] => ['0']
    | [c] => [c]
    | c :: rest => c :: '.' :: rest
  let expDigits := decimalDigits exp.natAbs
  let expText :=
    if exp < 0 then '-' :: padLeft l.negativeExponentWidth expDigits
    else '+' :: padLeft l.positiveExponentWidth expDigits
  String.ofList (mantissa ++ 'e' :: expText)

/-- A decimal with a sign in a layout. -/
def ShortDecimal.render (l : FloatLayout) (negative : Bool) (d : ShortDecimal) : String :=
  let body :=
    if d.digits != 0 && l.isScientific d.leadingExponent then d.scientific l else d.positional
  if negative then "-" ++ body else body

/-- The text of a number's value: the shortest digits in a layout, or `NaN`, `+Inf`, `-Inf`. -/
def FloatValue.render (l : FloatLayout) (maxDigits : Nat) : FloatValue → String
  | .nan => "NaN"
  | .infinite negative => if negative then "-Inf" else "+Inf"
  | v@(.finite negative _ _ _) => (v.shortest maxDigits).render l negative

/-- The shortest text of a 64-bit float in a layout. -/
def formatFloat (l : FloatLayout) (x : Float) : String := (valueOf x).render l 17

/-- The shortest text of a 32-bit float in a layout. -/
def formatFloat32 (l : FloatLayout) (x : Float32) : String := (valueOf32 x).render l 9

end Conform.Number
