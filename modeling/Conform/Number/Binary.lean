/-!
Binary floating-point numbers as exact values. A format fixes the widths of the fraction and
the exponent; a finite number of the format is `m · 2^q` for natural `m` and integer `q`.
Rounding a positive rational to a format takes the nearest number of the format, the one with
an even `m` when two are equally near, and infinity past the largest.
-/

namespace Conform.Number

/-- The widths of a binary interchange format. -/
structure FloatFormat where
  fractionBits : Nat
  exponentBits : Nat
  deriving Repr, DecidableEq

namespace FloatFormat

/-- 64-bit numbers: 52 fraction bits and 11 exponent bits. -/
def double : FloatFormat := ⟨52, 11⟩

/-- 32-bit numbers: 23 fraction bits and 8 exponent bits. -/
def single : FloatFormat := ⟨23, 8⟩

/-- The exponent bias. -/
def bias (f : FloatFormat) : Nat := Nat.pow 2 (f.exponentBits - 1) - 1

/-- The all-ones exponent field, which marks infinities and NaNs. -/
def maxField (f : FloatFormat) : Nat := Nat.pow 2 f.exponentBits - 1

/-- The exponent `q` of the smallest numbers, subnormal ones. -/
def minExponent (f : FloatFormat) : Int := 1 - (f.bias : Int) - f.fractionBits

end FloatFormat

/-- What the bits of a number stand for. -/
inductive FloatValue where
  | nan
  | infinite (negative : Bool)
  /-- `(-1)^negative · m · 2^q`; `lowerCloser` when the next smaller magnitude of the format is
  nearer than the next larger one, as at a power of two. -/
  | finite (negative : Bool) (m : Nat) (q : Int) (lowerCloser : Bool)
  deriving Repr, DecidableEq

/-- The value of a number's bits in a format. -/
def FloatFormat.decode (f : FloatFormat) (bits : Nat) : FloatValue :=
  let fraction := bits % Nat.pow 2 f.fractionBits
  let field := bits / Nat.pow 2 f.fractionBits % Nat.pow 2 f.exponentBits
  let negative := bits / Nat.pow 2 (f.fractionBits + f.exponentBits) % 2 == 1
  if field == f.maxField then
    if fraction == 0 then .infinite negative else .nan
  else if field == 0 then .finite negative fraction f.minExponent false
  else .finite negative (fraction + Nat.pow 2 f.fractionBits)
    ((field : Int) - f.bias - f.fractionBits) (fraction == 0 && field > 1)

/-- The bits of infinity of a sign. -/
def FloatFormat.infinityBits (f : FloatFormat) (negative : Bool) : Nat :=
  (if negative then Nat.pow 2 (f.fractionBits + f.exponentBits) else 0) +
    f.maxField * Nat.pow 2 f.fractionBits

/-- `2^e` as a rational `(numerator, denominator)`. -/
def powTwo (e : Int) : Nat × Nat :=
  if e ≥ 0 then (Nat.pow 2 e.toNat, 1) else (1, Nat.pow 2 (-e).toNat)

/-- The exponent `e` with `2^e ≤ n / d < 2^(e+1)`, for positive `n` and `d`. -/
def binaryExponent (n d : Nat) : Int :=
  let e : Int := (n.log2 : Int) - d.log2
  let (a, b) := powTwo e
  -- n / d ≥ a / b  ⇔  n * b ≥ a * d
  if n * b ≥ a * d then e else e - 1

/-- Round `n / d` to the nearest natural number, a half to the even one. -/
def roundHalfEven (n d : Nat) : Nat :=
  let q := n / d
  let r := n % d
  if 2 * r > d || (2 * r == d && q % 2 == 1) then q + 1 else q

/-- The bits of the number of a format nearest to the positive rational `n / d`, with a sign;
past the largest finite number it is infinity. The flag tells whether it overflowed. -/
def FloatFormat.roundRational (f : FloatFormat) (negative : Bool) (n d : Nat) : Nat × Bool :=
  let signBit := if negative then Nat.pow 2 (f.fractionBits + f.exponentBits) else 0
  if n == 0 then (signBit, false)
  else
    let e := binaryExponent n d
    let q := max (e - f.fractionBits) f.minExponent
    -- m = round (n / d / 2^q)
    let (a, b) := powTwo q
    let m := roundHalfEven (n * b) (d * a)
    let (m, q) := if m == Nat.pow 2 (f.fractionBits + 1) then (m / 2, q + 1) else (m, q)
    if m < Nat.pow 2 f.fractionBits then (signBit + m, false)
    else
      let field := q + f.bias + f.fractionBits
      if field ≥ f.maxField then (f.infinityBits negative, true)
      else (signBit + field.toNat * Nat.pow 2 f.fractionBits + (m - Nat.pow 2 f.fractionBits), false)

/-- A 64-bit float's value. -/
def valueOf (x : Float) : FloatValue := FloatFormat.double.decode x.toBits.toNat

/-- A 32-bit float's value. -/
def valueOf32 (x : Float32) : FloatValue := FloatFormat.single.decode x.toBits.toNat

/-- The 64-bit float nearest to `±n / d`, and whether it overflowed to infinity. -/
def floatOfRational (negative : Bool) (n d : Nat) : Float × Bool :=
  let (word, overflowed) := FloatFormat.double.roundRational negative n d
  (Float.ofBits word.toUInt64, overflowed)

/-- The 32-bit float nearest to `±n / d`, and whether it overflowed to infinity. -/
def float32OfRational (negative : Bool) (n d : Nat) : Float32 × Bool :=
  let (word, overflowed) := FloatFormat.single.roundRational negative n d
  (Float32.ofBits word.toUInt32, overflowed)

/-- The exact value of a finite number as a rational `(negative, numerator, denominator)`. -/
def FloatValue.toRational? : FloatValue → Option (Bool × Nat × Nat)
  | .finite negative m q _ =>
    let (a, b) := powTwo q
    some (negative, m * a, b)
  | _ => none

/-- The integer a finite number equals, if it is whole. -/
def FloatValue.toInt? : FloatValue → Option Int
  | .finite negative m q _ =>
    if q ≥ 0 then
      let v : Int := m * Int.pow 2 q.toNat
      some (if negative then -v else v)
    else if m % Nat.pow 2 (-q).toNat == 0 then
      let v : Int := m / Int.pow 2 (-q).toNat
      some (if negative then -v else v)
    else none
  | _ => none

end Conform.Number
