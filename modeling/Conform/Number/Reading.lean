import Conform.Number.Binary
import Conform.Number.Integer
/-! Reading binary floats from decimal or hexadecimal text, rounded to the nearest number of the
format with ties to even; past the largest finite number the text is out of range.
-/

namespace Conform.Number

/-- Whether a text is a plain decimal number: a sign, digits with an optional point (or a point
and digits), and an optional exponent. -/
def isDecimalText (s : String) : Bool :=
  let cs := s.toList
  let cs := match cs with
    | c :: rest => if c == '-' || c == '+' then rest else cs
    | [] => []
  let digits (l : List Char) := l.takeWhile Char.isDigit
  let mantissaRest : Option (List Char) :=
    match cs with
    | '.' :: rest =>
      let ds := digits rest
      if ds.isEmpty then none else some (rest.drop ds.length)
    | _ =>
      let ds := digits cs
      if ds.isEmpty then none
      else
        match cs.drop ds.length with
        | '.' :: rest => some (rest.drop (digits rest).length)
        | rest => some rest
  match mantissaRest with
  | none => false
  | some [] => true
  | some (e :: rest) =>
    if e != 'e' && e != 'E' then false
    else
      let rest := match rest with
        | c :: r => if c == '-' || c == '+' then r else rest
        | [] => []
      !rest.isEmpty && rest.all Char.isDigit

/-- What a float's text stands for: an exact rational value, an infinity or NaN. -/
inductive FloatText where
  | nan
  | infinite (negative : Bool)
  /-- `± numerator / denominator`; the denominator is positive. -/
  | finite (negative : Bool) (numerator denominator : Nat)
  deriving Repr, DecidableEq

/-- How many leading characters of a text spell a word, ignoring case. -/
def commonPrefixIgnoringCase : List Char → List Char → Nat
  | c :: cs, w :: ws => if c.toLower == w then commonPrefixIgnoringCase cs ws + 1 else 0
  | _, _ => 0

/-- Infinity or NaN spelled out, with the number of characters it takes. -/
def specialValue (s : List Char) : Option (FloatText × Nat) :=
  let infinity (negative : Bool) (signWidth : Nat) (rest : List Char) :=
    let n := commonPrefixIgnoringCase rest "infinity".toList
    let n := if 3 < n && n < 8 then 3 else n
    if n == 3 || n == 8 then some (FloatText.infinite negative, signWidth + n) else none
  match s with
  | '+' :: rest => infinity false 1 rest
  | '-' :: rest => infinity true 1 rest
  | c :: _ =>
    if c == 'i' || c == 'I' then infinity false 0 s
    else if (c == 'n' || c == 'N') && commonPrefixIgnoringCase s "nan".toList == 3 then
      some (.nan, 3)
    else none
  | [] => none

/-- A mantissa as read: its digits as one number, how many of them follow the point, whether
any digit was seen, whether an underscore was seen, and the rest of the text. -/
structure Mantissa where
  digits : Nat := 0
  fractionDigits : Nat := 0
  sawDigits : Bool := false
  sawPoint : Bool := false
  sawUnderscore : Bool := false

/-- Read mantissa digits in base 10 or 16, an optional point among them, and underscores. -/
def readMantissa (hex : Bool) : Mantissa → List Char → Mantissa × List Char
  | m, [] => (m, [])
  | m, c :: rest =>
    if c == '_' then readMantissa hex { m with sawUnderscore := true } rest
    else if c == '.' then
      if m.sawPoint then (m, c :: rest)
      else readMantissa hex { m with sawPoint := true } rest
    else
      let isDigit := c.isDigit || (hex && 'a' ≤ c.toLower && c.toLower ≤ 'f')
      if isDigit then
        readMantissa hex { m with
          digits := m.digits * (if hex then 16 else 10) + digitValue c
          fractionDigits := if m.sawPoint then m.fractionDigits + 1 else m.fractionDigits
          sawDigits := true } rest
      else (m, c :: rest)

/-- Read the digits of an exponent; past 10000 further digits no longer count. -/
def readExponentDigits : Nat → Bool → List Char → Nat × Bool × List Char
  | e, saw, [] => (e, saw, [])
  | e, saw, c :: rest =>
    if c == '_' then readExponentDigits e true rest
    else if c.isDigit then
      readExponentDigits (if e < 10000 then e * 10 + digitValue c else e) saw rest
    else (e, saw, c :: rest)

/-- Read an exponent after its letter: a sign and at least one digit. -/
def readExponent (s : List Char) : Option (Int × Bool × List Char) :=
  let (negative, s) := match s with
    | '+' :: rest => (false, rest)
    | '-' :: rest => (true, rest)
    | _ => (false, s)
  match s with
  | c :: _ =>
    if c.isDigit then
      let (e, saw, rest) := readExponentDigits 0 false s
      some (if negative then -(e : Int) else e, saw, rest)
    else none
  | [] => none

/-- The exact value of `digits · base^scale`, as a rational with a sign; magnitudes far outside
every format are cut to a huge or a tiny power. -/
def scaledValue (negative : Bool) (digits : Nat) (base : Nat) (scale : Int) : FloatText :=
  if digits == 0 then .finite negative 0 1
  else
    -- the decade (or octave) of the leading digit bounds the magnitude
    let lead : Int := scale + (Nat.toDigits base digits).length
    let limit : Int := if base == 10 then 400 else 1200
    if lead > limit then .finite negative (Nat.pow base (limit + 2).toNat) 1
    else if lead < -limit then .finite negative 1 (Nat.pow base (limit + 2).toNat)
    else if scale ≥ 0 then .finite negative (digits * Nat.pow base scale.toNat) 1
    else .finite negative digits (Nat.pow base (-scale).toNat)

/-- Read a whole text as a float's value; none when it is not written as one. -/
def FloatText.read? (text : String) : Option FloatText :=
  let s := text.toList
  match specialValue s with
  | some (v, n) => if n == s.length then some v else none
  | none =>
    let (negative, body) := match s with
      | '+' :: rest => (false, rest)
      | '-' :: rest => (true, rest)
      | _ => (false, s)
    let (hex, body) := match body with
      | '0' :: x :: c :: rest => if x == 'x' || x == 'X' then (true, c :: rest) else (false, body)
      | _ => (false, body)
    let (m, rest) := readMantissa hex {} body
    if !m.sawDigits then none
    else
      let exponent : Option (Int × Bool × List Char) :=
        match rest with
        | c :: after =>
          if c.toLower == (if hex then 'p' else 'e') then
            readExponent after
          else if hex then none
          else some (0, false, rest)
        | [] => if hex then none else some (0, false, [])
      match exponent with
      | none => none
      | some (e, sawUnderscore, rest) =>
        let consumed := s.take (s.length - rest.length)
        if !rest.isEmpty then none
        else if (m.sawUnderscore || sawUnderscore) && !underscoresFit consumed then none
        else if hex then
          some (scaledValue negative m.digits 2 (e - 4 * (m.fractionDigits : Int)))
        else some (scaledValue negative m.digits 10 (e - (m.fractionDigits : Int)))

/-- The bits of the number of a format that a text's value rounds to, and whether it is out of
range. -/
def FloatText.round (f : FloatFormat) : FloatText → Nat × Bool
  | .nan => (f.maxField * Nat.pow 2 f.fractionBits + Nat.pow 2 (f.fractionBits - 1), false)
  | .infinite negative => (f.infinityBits negative, false)
  | .finite negative n d => f.roundRational negative n d

/-- Read a 64-bit float. A value out of range reads as an infinity, with the fault. -/
def readFloat (text : String) : Except NumberFault Float × Float :=
  match FloatText.read? text with
  | none => (.error .malformed, 0)
  | some v =>
    let (word, overflowed) := v.round .double
    let x := Float.ofBits word.toUInt64
    (if overflowed then .error .range else .ok x, x)

/-- Read a 32-bit float. A value out of range reads as an infinity, with the fault. -/
def readFloat32 (text : String) : Except NumberFault Float32 × Float32 :=
  match FloatText.read? text with
  | none => (.error .malformed, 0)
  | some v =>
    let (word, overflowed) := v.round .single
    let x := Float32.ofBits word.toUInt32
    (if overflowed then .error .range else .ok x, x)

/-- Read a 64-bit float that is written well and in range. -/
def parseFloat? (text : String) : Option Float :=
  match (readFloat text).1 with
  | .ok x => some x
  | .error _ => none

end Conform.Number
