import Conform.Value
/-! Reading values as numbers: as the float a JSON number or a decimal text rounds to or a host
number converts to, and as an exact decimal; and whether a float fits a number width.
-/

namespace Conform

open Conform.Number

/-- The 64-bit float nearest to a whole number. -/
def floatOfInt (n : Int) : Float := (floatOfRational (n < 0) n.natAbs 1).1

/-- A 32-bit float widened to 64 bits; the value is kept exactly. -/
def widen (x : Float32) : Float := x.toFloat

namespace Value

/-- A value read as a 64-bit float. -/
def toFloat? : Value → Option Float
  | .number s => parseFloat? s
  | .text s => if isDecimalText s then parseFloat? s else none
  | .float x => some x
  | .float32 x => some (widen x)
  | .int n => some (floatOfInt n)
  | .uint n => some (floatOfInt n)
  | _ => none

/-- Whether a float is neither infinite nor NaN. -/
def isFiniteFloat (x : Float) : Bool :=
  match valueOf x with
  | .finite .. => true
  | _ => false

/-- A value read as an exact decimal. -/
def toDecimal? : Value → Option Decimal
  | .decimal d => some d
  | .ref (.decimal d) => some d
  | .number s =>
    match Decimal.ofString s with
    | .ok d => some d
    | .error _ => none
  | .text s =>
    if !isDecimalText s then none
    else
      match Decimal.ofString s with
      | .ok d => some d
      | .error _ => none
  | .float x => if isFiniteFloat x then some (Decimal.ofFloat x) else none
  | .float32 x => if isFiniteFloat (widen x) then some (Decimal.ofFloat32 x) else none
  | .int n => some (Decimal.ofInt n)
  | .uint n => some (Decimal.ofInt n)
  | _ => none

end Value

/-- The widths a number may be checked against. -/
inductive NumberWidth where
  | int8 | int16 | int32 | int64
  | uint8 | uint16 | uint32 | uint64
  | float32 | float64
  deriving Repr, DecidableEq

/-- The whole numbers a width holds, or none for a float width. -/
def NumberWidth.range? : NumberWidth → Option (Int × Int)
  | .int8 => some (-Int.pow 2 7, Int.pow 2 7 - 1)
  | .int16 => some (-Int.pow 2 15, Int.pow 2 15 - 1)
  | .int32 => some (-Int.pow 2 31, Int.pow 2 31 - 1)
  | .int64 => some (-Int.pow 2 63, Int.pow 2 63 - 1)
  | .uint8 => some (0, Int.pow 2 8 - 1)
  | .uint16 => some (0, Int.pow 2 16 - 1)
  | .uint32 => some (0, Int.pow 2 32 - 1)
  | .uint64 => some (0, Int.pow 2 64 - 1)
  | .float32 | .float64 => none

/-- A finite float's value truncated toward zero. -/
def Number.FloatValue.truncated? : FloatValue → Option Int
  | .finite negative m q _ =>
    let v : Int := if q ≥ 0 then m * Int.pow 2 q.toNat else m / Int.pow 2 (-q).toNat
    some (if negative then -v else v)
  | _ => none

/-- A float with its fraction dropped: infinities and NaN as they are, a float with no fraction
bits as it is, and any other float the whole number toward zero from it, with its sign. -/
def truncFloat (x : Float) : Float :=
  match valueOf x with
  | .finite negative m q _ =>
    if q ≥ 0 then x else (floatOfRational negative (m / Nat.pow 2 (-q).toNat) 1).1
  | _ => x

/-- The float that the least 64-bit integer becomes: `-2^63`. -/
def minInt64Float : Float := floatOfInt (-Int.pow 2 63)

/-- The float that the largest 64-bit integer becomes, rounded to the nearest: `2^63`. -/
def maxInt64Float : Float := floatOfInt (Int.pow 2 63 - 1)

/-- The float that the largest unsigned 64-bit integer becomes, rounded to the nearest: `2^64`. -/
def maxUint64Float : Float := floatOfInt (Int.pow 2 64 - 1)

/-- Whether a float is held exactly by a width. A float width holds every float. For a whole
number width, the float must equal its truncation and lie within the 64-bit range of the width's
sign, compared with the floats of that range's ends; then it is converted to the width and back,
and must come back the same. A float out of the width's range converts to some number of the
width that the platform chooses, so the conversion is a parameter: `convert` gives the number of
the width that a float converts to. -/
def NumberWidth.representableWith (convert : Float → Int) (w : NumberWidth) (f : Float) : Bool :=
  match w with
  | .float32 | .float64 => true
  | .int8 | .int16 | .int32 | .int64 =>
    if f != truncFloat f || f < minInt64Float || f ≥ maxInt64Float then false
    else floatOfInt (convert f) == f
  | .uint8 | .uint16 | .uint32 | .uint64 =>
    if f != truncFloat f || f < floatOfInt 0 || f ≥ maxUint64Float then false
    else floatOfInt (convert f) == f

/-- A whole number wrapped into a width, keeping its low bits as two's complement does; a float
width keeps it as it is. -/
def NumberWidth.wrap (w : NumberWidth) (n : Int) : Int :=
  match w.range? with
  | some (lo, hi) => lo + (n - lo) % (hi - lo + 1)
  | none => n

/-- The conversion of a float to a width made here: its value truncated toward zero, wrapped
into the width; NaN and the infinities convert as the least 64-bit integer does. -/
def NumberWidth.convert (w : NumberWidth) (f : Float) : Int :=
  w.wrap ((valueOf f).truncated?.getD (-Int.pow 2 63))

/-- Whether a float is held exactly by a width, with the conversion made here. -/
def NumberWidth.holds (w : NumberWidth) (x : Float) : Bool := w.representableWith w.convert x

end Conform
