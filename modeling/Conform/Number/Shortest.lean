import Conform.Number.Binary
/-!
The shortest decimal that reads back as a given binary number. Every real in the rounding
interval of `m · 2^q` reads back as it; the interval reaches half-way to the two neighbours and
holds its ends when `m` is even. For one digit, two, and so on, the two points of the decimal
grid around the number are tested in exact natural arithmetic; the first grid with a point in
the interval gives the digits, and of two points there the nearer, the even one on a tie.
-/

namespace Conform.Number

/-- A decimal `digits · 10^exponent`; the digits carry no trailing zero unless they are zero. -/
structure ShortDecimal where
  digits : Nat
  exponent : Int
  deriving Repr, DecidableEq, Inhabited

/-- The decimal digits of a natural number. -/
def decimalDigits (n : Nat) : List Char := Nat.toDigits 10 n

/-- Drop trailing zeros from the digits, raising the exponent. -/
def ShortDecimal.trim (d : ShortDecimal) : ShortDecimal :=
  let rec go (digits : Nat) (exponent : Int) : Nat → ShortDecimal
    | 0 => ⟨digits, exponent⟩
    | fuel + 1 =>
      if digits != 0 && digits % 10 == 0 then go (digits / 10) (exponent + 1) fuel
      else ⟨digits, exponent⟩
  go d.digits d.exponent (decimalDigits d.digits).length

/-- `10^e` as a rational `(numerator, denominator)`. -/
def powTen (e : Int) : Nat × Nat :=
  if e ≥ 0 then (Nat.pow 10 e.toNat, 1) else (1, Nat.pow 10 (-e).toNat)

/-- The exponent `k` with `10^k ≤ n / d < 10^(k+1)`, for positive `n` and `d`: an estimate from
the binary exponent, moved until it holds. -/
def decimalExponent (n d : Nat) : Int :=
  let e := binaryExponent n d
  -- log10 2 is a little above 78913 / 2^18
  let k0 : Int := (e * 78913) / 262144
  let atLeast (k : Int) : Bool :=
    let (a, b) := powTen k
    n * b ≥ a * d
  let rec fix (k : Int) : Nat → Int
    | 0 => k
    | fuel + 1 =>
      if !atLeast k then fix (k - 1) fuel
      else if atLeast (k + 1) then fix (k + 1) fuel
      else k
  fix k0 8

/-- The shortest decimal in the rounding interval of the positive number `m · 2^q`, looking at
no more than `maxDigits` significant digits; `lowerCloser` when the next smaller number of the
format is nearer than the next larger one. -/
def shortestOf (maxDigits m : Nat) (q : Int) (lowerCloser : Bool) : ShortDecimal :=
  -- value, low end and high end as numerators over a common denominator
  let s := q - 2
  let (scale, den) := powTwo s
  let value := 4 * m * scale
  let low := (4 * m - (if lowerCloser then 1 else 2)) * scale
  let high := (4 * m + 2) * scale
  let inclusive := m % 2 == 0
  let k := decimalExponent value den
  let rec search (n : Nat) : Nat → ShortDecimal
    | 0 => ⟨m, 0⟩
    | fuel + 1 =>
      let t : Int := k - n + 1
      -- a grid point x stands for x · 10^t; compare x * a with a numerator times b
      let (a, b) := if t ≥ 0 then (Nat.pow 10 t.toNat * den, 1) else (den, Nat.pow 10 (-t).toNat)
      let inside (x : Nat) : Bool :=
        (low * b < x * a || (inclusive && low * b == x * a)) &&
          (x * a < high * b || (inclusive && x * a == high * b))
      let c := value * b / a
      let below := inside c
      let above := inside (c + 1)
      if below && above then
        let downGap := value * b - c * a
        let upGap := (c + 1) * a - value * b
        if downGap < upGap || (downGap == upGap && c % 2 == 0) then ShortDecimal.trim ⟨c, t⟩
        else ShortDecimal.trim ⟨c + 1, t⟩
      else if below then ShortDecimal.trim ⟨c, t⟩
      else if above then ShortDecimal.trim ⟨c + 1, t⟩
      else if n ≥ maxDigits then
        -- too many digits: the nearer grid point
        if value * b - c * a ≤ (c + 1) * a - value * b then ShortDecimal.trim ⟨c, t⟩
        else ShortDecimal.trim ⟨c + 1, t⟩
      else search (n + 1) fuel
  search 1 (maxDigits + 1)

/-- The shortest decimal of a finite number's magnitude; zero for zero. -/
def FloatValue.shortest (maxDigits : Nat) : FloatValue → ShortDecimal
  | .finite _ m q lowerCloser => if m == 0 then ⟨0, 0⟩ else shortestOf maxDigits m q lowerCloser
  | _ => ⟨0, 0⟩

end Conform.Number
