import Mathlib
import Conform.Proofs.DecimalPlaces
import Conform.Json.Reader
import Conform.DataType.Validate
/-! A value a decimal type admits reads as a decimal unless it is a JSON number whose exponents do
not fit in 32 bits, such as `1e-3000000000`; every number the JSON reader takes is a `Numeral`,
and one whose exponents fit reads as exactly the value it writes.
-/

namespace Conform.Number

-----------------------------------------------------------------------------------------
-- Digits
-----------------------------------------------------------------------------------------

/-- The number that decimal digits write, the most significant first. -/
def digitsValue (ds : List Char) : Nat := ds.foldl (fun n c => n * 10 + digitValue c) 0

/-- Reading digits after some already read shifts those left by the digits' count. -/
theorem foldl_digits (n : Nat) (ds : List Char)
    : ds.foldl (fun n c => n * 10 + digitValue c) n = n * 10 ^ ds.length + digitsValue ds := by
  induction ds generalizing n with
  | nil => simp [digitsValue]
  | cons c rest ih =>
    simp only [List.foldl_cons, digitsValue, Nat.zero_mul, Nat.zero_add, List.length_cons]
    rw [ih, ih (digitValue c)]
    ring

theorem digitsValue_cons (c : Char) (rest : List Char)
    : digitsValue (c :: rest) = digitValue c * 10 ^ rest.length + digitsValue rest := by
  rw [digitsValue, List.foldl_cons, Nat.zero_mul, Nat.zero_add, foldl_digits]

theorem digitsValue_append (front back : List Char)
    : digitsValue (front ++ back) = digitsValue front * 10 ^ back.length + digitsValue back := by
  rw [digitsValue, List.foldl_append, foldl_digits]
  rfl

theorem digitValue_lt {c : Char} (digit : c.isDigit) : digitValue c < 10 := by
  have bounds := Char.isDigit_iff_toNat.mp digit
  simp only [digitValue, digit, ↓reduceIte]
  have zero : '0'.toNat = 48 := rfl
  have nine : '9'.toNat = 57 := rfl
  omega

/-- `k` digits write a number below `10^k`. -/
theorem digitsValue_lt {ds : List Char} (digits : ∀ c ∈ ds, c.isDigit)
    : digitsValue ds < 10 ^ ds.length := by
  induction ds with
  | nil => simp [digitsValue]
  | cons c rest ih =>
    have first := digitValue_lt (digits c (by simp))
    have later := ih (fun d member => digits d (by simp [member]))
    rw [digitsValue_cons, List.length_cons, pow_succ]
    calc digitValue c * 10 ^ rest.length + digitsValue rest
        < digitValue c * 10 ^ rest.length + 10 ^ rest.length := by omega
      _ = (digitValue c + 1) * 10 ^ rest.length := by ring
      _ ≤ 10 * 10 ^ rest.length := Nat.mul_le_mul_right _ first
      _ = 10 ^ rest.length * 10 := by ring

/-- The same number read into an integer. -/
theorem foldl_digits_int (n : Nat) (ds : List Char)
    : ds.foldl (fun (m : Int) c => m * 10 + digitValue c) n
      = (ds.foldl (fun m c => m * 10 + digitValue c) n : Nat) := by
  induction ds generalizing n with
  | nil => rfl
  | cons c rest ih =>
    simp only [List.foldl_cons]
    rw [← ih]
    push_cast
    rfl

-----------------------------------------------------------------------------------------
-- Reading whole numbers in base ten
-----------------------------------------------------------------------------------------

/-- Reading decimal digits into a number below `2^bits` gives the number they write, or fails as
out of range when it is not below. -/
theorem readDigits_digits {bits : Nat} (whole : List Char) {ds : List Char}
    (digits : ∀ c ∈ ds, c.isDigit) {n : Nat} (small : n < 2 ^ bits)
    : readDigits 10 bits false whole ds n false
      = if n * 10 ^ ds.length + digitsValue ds < 2 ^ bits
        then .ok (n * 10 ^ ds.length + digitsValue ds) else .error .range := by
  induction ds generalizing n with
  | nil => simp [readDigits, digitsValue, small]
  | cons c rest ih =>
    have digit := digitValue_lt (digits c (by simp))
    have expand : n * 10 ^ (rest.length + 1) + digitsValue (c :: rest)
        = (n * 10 + digitValue c) * 10 ^ rest.length + digitsValue rest := by
      rw [digitsValue_cons]
      ring
    have notUnderscore : (c == '_' && false) = false := Bool.and_false _
    simp only [readDigits, notUnderscore, Bool.false_eq_true, ↓reduceIte, Nat.pow_eq,
      List.length_cons, expand]
    rw [if_neg (by omega)]
    by_cases passed : 2 ^ bits ≤ n * 10 + digitValue c
    · -- the digits read so far pass the limit, and so does the whole number
      have past : 2 ^ bits ≤ (n * 10 + digitValue c) * 10 ^ rest.length + digitsValue rest :=
        le_trans passed (le_trans (Nat.le_mul_of_pos_right _ (by positivity)) (Nat.le_add_right _ _))
      rw [if_pos passed, if_neg (by omega)]
    · rw [if_neg passed, ih (fun d member => digits d (by simp [member])) (by omega)]

/-- A number with the sign a text writes before it: `-` negates it, `+` or nothing keeps it. -/
def signed (sign : List Char) (n : Nat) : Int := if sign = ['-'] then -(n : Int) else n

/-- Reading a signed decimal integer of `bits` bits gives the number its sign and digits write
when it is in range, and fails as out of range otherwise. -/
theorem readInt_digits {sign ds : List Char} (signs : sign = [] ∨ sign = ['+'] ∨ sign = ['-'])
    (nonempty : ds ≠ []) (digits : ∀ c ∈ ds, c.isDigit) {bits : Nat} (pos : 0 < bits)
    : readInt (String.ofList (sign ++ ds)) 10 bits
      = if -2 ^ (bits - 1) ≤ signed sign (digitsValue ds)
          ∧ signed sign (digitsValue ds) < 2 ^ (bits - 1)
        then .ok (signed sign (digitsValue ds)) else .error .range := by
  obtain ⟨c, rest, rfl⟩ := List.exists_cons_of_ne_nil nonempty
  have digit := digits c (by simp)
  have notPlus : c ≠ '+' := fun same => by simp [same] at digit
  have notMinus : c ≠ '-' := fun same => by simp [same] at digit
  have reading : readNat (String.ofList (c :: rest)) 10 bits
      = if digitsValue (c :: rest) < 2 ^ bits then .ok (digitsValue (c :: rest))
        else .error .range := by
    have start := readDigits_digits (c :: rest) digits (Nat.two_pow_pos bits)
    rw [Nat.zero_mul, Nat.zero_add] at start
    simp [readNat, String.toList_ofList, start]
  -- the limit of the sign's range, in both number types
  have half : 2 ^ (bits - 1) < 2 ^ bits := Nat.pow_lt_pow_right (by norm_num) (by omega)
  obtain ⟨limit, natLimit⟩ : ∃ limit, 2 ^ (bits - 1) = limit := ⟨_, rfl⟩
  have intLimit : (2 : ℤ) ^ (bits - 1) = limit := by
    rw [← natLimit]
    push_cast
    rfl
  rw [intLimit]
  rw [natLimit] at half
  have positive : 0 < limit := by rw [← natLimit]; positivity
  -- the sign is read first, then the digits, then the range of the sign is checked
  by_cases fits : digitsValue (c :: rest) < 2 ^ bits
  · rcases signs with rfl | rfl | rfl
    · simp [readInt, notPlus, notMinus, reading, fits, signed, natLimit, -String.ofList_cons]
      simp only [← not_lt, ite_not]
    · -- a plus sign reads as no sign
      simp [readInt, reading, fits, signed, natLimit, -String.ofList_cons]
      simp only [← not_lt, ite_not]
    · -- a negative number may reach the limit
      have above : -(digitsValue (c :: rest) : ℤ) < limit := by omega
      simp [readInt, reading, fits, signed, natLimit, above, -String.ofList_cons]
      simp only [← not_lt, ite_not]
  · -- digits past `2^bits` are out of range whatever the sign
    rcases signs with rfl | rfl | rfl
    all_goals simp [readInt, notPlus, notMinus, reading, fits, signed, -String.ofList_cons]
    all_goals omega

/-- The coefficient of a decimal, an optional minus and digits, reads as the number they
write: a short text as a 64-bit integer, which its at most 18 digits fit, and a longer one digit
by digit. -/
theorem readCoefficient_digits {sign ds : List Char} (signs : sign = [] ∨ sign = ['-'])
    (nonempty : ds ≠ []) (digits : ∀ c ∈ ds, c.isDigit)
    : Decimal.readCoefficient (String.ofList (sign ++ ds)) = some (signed sign (digitsValue ds)) := by
  obtain ⟨c, rest, rfl⟩ := List.exists_cons_of_ne_nil nonempty
  have digit := digits c (by simp)
  have notPlus : c ≠ '+' := fun same => by simp [same] at digit
  have notMinus : c ≠ '-' := fun same => by simp [same] at digit
  have allDigits : (c :: rest).all Char.isDigit = true := List.all_eq_true.mpr digits
  have read : (c :: rest).foldl (fun (m : Int) c => m * 10 + digitValue c) 0
      = (digitsValue (c :: rest) : Int) := foldl_digits_int 0 (c :: rest)
  by_cases short : (String.ofList (sign ++ c :: rest)).length ≤ 18
  · -- at most 18 digits write a number below `2^63`
    have few : (c :: rest).length ≤ 18 := by
      simp only [String.length_ofList, List.length_append] at short
      omega
    have below : digitsValue (c :: rest) < 2 ^ 63 :=
      calc digitsValue (c :: rest) < 10 ^ (c :: rest).length := digitsValue_lt digits
        _ ≤ 10 ^ 18 := Nat.pow_le_pow_right (by norm_num) few
        _ < 2 ^ 63 := by norm_num
    have fits : -2 ^ (64 - 1) ≤ signed sign (digitsValue (c :: rest))
        ∧ signed sign (digitsValue (c :: rest)) < 2 ^ (64 - 1) := by
      rcases signs with rfl | rfl <;> simp [signed] <;> omega
    simp only [Decimal.readCoefficient, short, ↓reduceIte,
      readInt_digits (signs.imp_right Or.inr) nonempty digits (by norm_num : 0 < 64), fits,
      and_self]
  · -- a longer text is read digit by digit
    rw [Decimal.readCoefficient, if_neg short]
    rcases signs with rfl | rfl
    · simp [notPlus, notMinus, allDigits, read, signed, -String.ofList_cons]
    · simp [allDigits, read, signed, -String.ofList_cons]

-----------------------------------------------------------------------------------------
-- Numbers as JSON writes them
-----------------------------------------------------------------------------------------

/-- The exponent of a number as JSON writes it: `e` or `E`, an optional sign and digits. -/
structure ExponentText where
  marker : Char
  sign : List Char
  digits : List Char
  marker_mem : marker = 'e' ∨ marker = 'E'
  sign_mem : sign = [] ∨ sign = ['+'] ∨ sign = ['-']
  nonempty : digits ≠ []
  all_digits : ∀ c ∈ digits, c.isDigit

/-- A number as JSON writes it: an optional minus, the digits before the point, the digits after
it (and no point when there are none), and an optional exponent. -/
structure Numeral where
  negative : Bool
  whole : List Char
  fraction : List Char
  exponent : Option ExponentText
  nonempty : whole ≠ []
  whole_digits : ∀ c ∈ whole, c.isDigit
  fraction_digits : ∀ c ∈ fraction, c.isDigit

namespace Numeral

variable (n : Numeral)

def sign : List Char := if n.negative then ['-'] else []

/-- The point and the digits after it, or nothing. -/
def pointPart : List Char := if n.fraction = [] then [] else '.' :: n.fraction

def exponentPart : List Char :=
  match n.exponent with
  | none => []
  | some e => e.marker :: (e.sign ++ e.digits)

/-- The characters of the number before its exponent. -/
def body : List Char := n.sign ++ n.whole ++ n.pointPart

def text : String := String.ofList (n.body ++ n.exponentPart)

/-- The written exponent, zero when there is none. -/
def exponentValue : Int :=
  match n.exponent with
  | none => 0
  | some e => signed e.sign (digitsValue e.digits)

/-- The exponent of the decimal the number reads as: the written exponent less the digits after
the point. -/
def scale : Int := n.exponentValue - n.fraction.length

def coefficient : Int := signed n.sign (digitsValue (n.whole ++ n.fraction))

/-- The decimal of the number's digits and exponents. -/
def decimal : Decimal := ⟨n.coefficient, n.scale⟩

/-- The value the number writes: its whole part and fraction, with its sign, times ten to its
exponent. -/
def value : ℚ :=
  (if n.negative then -1 else 1)
    * (digitsValue n.whole + (digitsValue n.fraction : ℚ) / 10 ^ n.fraction.length)
    * 10 ^ n.exponentValue

/-- A whole number fits in 32 bits with its sign. -/
def Fits32 (e : Int) : Prop := -2 ^ 31 ≤ e ∧ e < 2 ^ 31

instance (e : Int) : Decidable (Fits32 e) := inferInstanceAs (Decidable (_ ∧ _))

/-- A number's exponents suit a decimal: the written one and the one less the digits after the
point both fit in 32 bits. -/
def Fits : Prop := Fits32 n.exponentValue ∧ Fits32 n.scale

instance : Decidable n.Fits := inferInstanceAs (Decidable (_ ∧ _))

theorem signed_sign (k : Nat) : signed n.sign k = if n.negative then -(k : Int) else k := by
  by_cases negative : n.negative <;> simp [Numeral.sign, signed, negative]

/-- The decimal of a number's digits has the value the number writes. -/
theorem decimal_value : n.decimal.value = n.value := by
  have digits : (digitsValue (n.whole ++ n.fraction) : ℚ)
      = digitsValue n.whole * 10 ^ n.fraction.length + digitsValue n.fraction := by
    rw [digitsValue_append]
    push_cast
    ring
  have shift : (10 : ℚ) ^ n.scale = 10 ^ n.exponentValue / 10 ^ n.fraction.length := by
    rw [scale, zpow_sub₀ (by norm_num), zpow_natCast]
  have positive : (10 : ℚ) ^ n.fraction.length ≠ 0 := by positivity
  simp only [Decimal.value, decimal, coefficient, value, signed_sign, shift]
  by_cases negative : n.negative
  · simp only [negative, ↓reduceIte, Int.cast_neg, Int.cast_natCast, digits]
    field_simp
  · simp only [negative, Bool.false_eq_true, ↓reduceIte, Int.cast_natCast, digits]
    field_simp

-----------------------------------------------------------------------------------------
-- Where the reading splits a number's text
-----------------------------------------------------------------------------------------

theorem digit_ne {c : Char} (digit : c.isDigit) (other : Char) (notDigit : other.isDigit = false)
    : c ≠ other := fun same => by rw [same, notDigit] at digit; cases digit

/-- Before its exponent a number has no `e` or `E`. -/
theorem body_no_marker : ∀ c ∈ n.body, (c == 'e' || c == 'E') = false := by
  intro c member
  simp only [body, Numeral.sign, pointPart, List.mem_append] at member
  -- a sign, digits and a point
  have plain : c = '-' ∨ c = '.' ∨ c.isDigit := by
    rcases member with (sign | whole) | point
    · split at sign <;> simp_all
    · exact .inr (.inr (n.whole_digits c whole))
    · split at point
      · simp at point
      · rcases List.mem_cons.mp point with rfl | fraction
        · exact .inr (.inl rfl)
        · exact .inr (.inr (n.fraction_digits c fraction))
  rcases plain with rfl | rfl | digit
  · rfl
  · rfl
  · simp [digit_ne digit 'e' rfl, digit_ne digit 'E' rfl]

/-- The reading looks for the exponent at the first `e` or `E`: where the exponent starts, if
there is one. -/
theorem findIdx?_marker
    : (n.body ++ n.exponentPart).findIdx? (fun c => c == 'e' || c == 'E')
      = n.exponent.map fun _ => n.body.length := by
  have free : n.body.findIdx? (fun c => c == 'e' || c == 'E') = none :=
    List.findIdx?_eq_none_iff.mpr n.body_no_marker
  rw [List.findIdx?_append, free, Option.none_or]
  cases exponent : n.exponent with
  | none => simp [exponentPart, exponent]
  | some e =>
    have marker : (e.marker == 'e' || e.marker == 'E') = true := by
      rcases e.marker_mem with same | same <;> simp [same]
    simp [exponentPart, exponent, List.findIdx?_cons, marker]

theorem drop_marker {e : ExponentText} (exponent : n.exponent = some e)
    : (n.body ++ n.exponentPart).drop (n.body.length + 1) = e.sign ++ e.digits := by
  simp [exponentPart, exponent, List.drop_append]

theorem take_marker : (n.body ++ n.exponentPart).take n.body.length = n.body := by
  simp

/-- A number has at most one point. -/
theorem points_le_one : (n.body.filter (· == '.')).length ≤ 1 := by
  have noPoint : ∀ c ∈ n.sign ++ n.whole, (c == '.') = false := by
    intro c member
    simp only [Numeral.sign, List.mem_append] at member
    rcases member with sign | whole
    · split at sign <;> simp_all
    · simp [digit_ne (n.whole_digits c whole) '.' rfl]
  have noFractionPoint : ∀ c ∈ n.fraction, (c == '.') = false := fun c fraction => by
    simp [digit_ne (n.fraction_digits c fraction) '.' rfl]
  have front : (n.sign ++ n.whole).filter (· == '.') = [] :=
    List.filter_eq_nil_iff.mpr fun c member => by simp [noPoint c member]
  have back : n.fraction.filter (· == '.') = [] :=
    List.filter_eq_nil_iff.mpr fun c member => by simp [noFractionPoint c member]
  rw [body, List.filter_append, front, List.nil_append, pointPart]
  split
  · simp
  · rw [List.filter_cons_of_pos (by simp), back]
    simp

/-- The reading finds the point after the sign and the whole digits, if there is one. -/
theorem findIdx?_point
    : n.body.findIdx? (· == '.')
      = if n.fraction = [] then none else some (n.sign ++ n.whole).length := by
  have free : '.' ∉ n.sign ++ n.whole := by
    intro member
    simp only [Numeral.sign, List.mem_append] at member
    rcases member with sign | whole
    · split at sign <;> simp_all
    · exact digit_ne (n.whole_digits '.' whole) '.' rfl rfl
  split
  · rename_i noFraction
    simp only [body, pointPart, noFraction, ↓reduceIte, List.append_nil]
    exact findIdx?_point_of_free free
  · rename_i fraction
    have shape : n.body = (n.sign ++ n.whole) ++ '.' :: n.fraction := by
      simp [body, pointPart, fraction]
    rw [shape, List.findIdx?_append, findIdx?_point_of_free free]
    simp [List.findIdx?_cons]

/-- The reading splits a number's text at its exponent, which it reads when it fits in 32
bits. -/
theorem splitExponent_text
    : Decimal.splitExponent n.text
      = if Fits32 n.exponentValue then .ok (n.body, n.exponentValue)
        else .error (.exponentTooLarge n.text) := by
  have chars : n.text.toList = n.body ++ n.exponentPart := String.toList_ofList
  simp only [Decimal.splitExponent, chars, findIdx?_marker]
  cases exponent : n.exponent with
  | none => simp [exponentPart, exponent, exponentValue, Fits32]
  | some e =>
    have value : n.exponentValue = signed e.sign (digitsValue e.digits) := by
      simp [exponentValue, exponent]
    simp only [Option.map_some, drop_marker n exponent, take_marker,
      readInt_digits e.sign_mem e.nonempty e.all_digits (by norm_num : 0 < 32), value, Fits32]
    split_ifs <;> rfl

/-- Taking out the point leaves the sign and all the digits, and lowers the exponent by the
digits after the point. -/
theorem dropPoint_body (exp : Int)
    : Decimal.dropPoint n.body exp = (n.sign ++ (n.whole ++ n.fraction), exp - n.fraction.length) := by
  rw [Decimal.dropPoint, findIdx?_point]
  by_cases noFraction : n.fraction = []
  · simp [noFraction, body, pointPart]
  · have shape : n.body = (n.sign ++ n.whole) ++ '.' :: n.fraction := by
      simp [body, pointPart, noFraction]
    rw [if_neg noFraction]
    dsimp only
    have dropped : (n.sign ++ n.whole ++ '.' :: n.fraction).drop ((n.sign ++ n.whole).length + 1)
        = n.fraction := by
      rw [List.append_cons, List.drop_left' (by simp; omega)]
    rw [shape, List.take_left, dropped]
    simp

/-- A number as JSON writes it reads as the decimal of its digits and exponents when both
exponents fit in 32 bits, and is refused as having too large an exponent otherwise. -/
theorem ofString_text
    : Decimal.ofString n.text
      = if n.Fits then .ok n.decimal else .error (.exponentTooLarge n.text) := by
  have points : ¬ (n.body.filter (· == '.')).length > 1 := by
    have := n.points_le_one
    omega
  have signs : n.sign = [] ∨ n.sign = ['-'] := by
    unfold Numeral.sign
    split <;> simp
  have coefficientRead := readCoefficient_digits signs (by simp [n.nonempty])
    (fun c member => (List.mem_append.mp member).elim (n.whole_digits c) (n.fraction_digits c))
  rw [Decimal.ofString, splitExponent_text]
  by_cases exponentFits : Fits32 n.exponentValue
  · -- the exponent is read; then the point is taken out and the digits read
    simp only [exponentFits, ↓reduceIte, points, dropPoint_body, coefficientRead]
    by_cases scaleFits : Fits32 n.scale
    · have fits : n.Fits := ⟨exponentFits, scaleFits⟩
      simp only [Fits32, scale] at scaleFits
      simp only [fits, ↓reduceIte, decimal, coefficient, scale]
      rw [if_neg (by simp; omega)]
    · have notFits : ¬ n.Fits := fun fits => scaleFits fits.2
      simp only [Fits32, scale] at scaleFits
      simp only [notFits, ↓reduceIte]
      rw [if_pos (by simp; omega)]
  · have notFits : ¬ n.Fits := fun fits => exponentFits fits.1
    simp [exponentFits, notFits]

end Numeral

end Conform.Number

namespace Conform.JsonValue

open Conform.Number

-----------------------------------------------------------------------------------------
-- What the JSON reader takes as a number
-----------------------------------------------------------------------------------------

theorem spanDigits_digits (cs : List Char) : ∀ c ∈ (spanDigits cs).1, c.isDigit :=
  fun _ member => List.mem_takeWhile_imp member

theorem spanDigits_ne_nil {c : Char} (rest : List Char) (digit : c.isDigit)
    : (spanDigits (c :: rest)).1 ≠ [] := by
  simp [spanDigits, digit]

/-- The integer part of a number is a run of digits. -/
theorem readWhole_ok {cs whole after : List Char} (read : readWhole cs = .ok (whole, after))
    : whole ≠ [] ∧ ∀ c ∈ whole, c.isDigit := by
  unfold readWhole at read
  split at read
  · cases read
  · cases read
    simp
  · next c tail notZero =>
    split at read
    · next digit =>
      cases read
      exact ⟨spanDigits_ne_nil tail digit, spanDigits_digits (c :: tail)⟩
    · cases read

/-- The fraction of a number is a point and the digits after it, or nothing. -/
theorem readFraction_ok {cs frac after : List Char} (read : readFraction cs = .ok (frac, after))
    : ∃ fraction, (∀ c ∈ fraction, c.isDigit) ∧ frac = if fraction = [] then [] else '.' :: fraction := by
  unfold readFraction at read
  split at read
  · next r =>
    split at read
    · cases read
    · next c tail =>
      split at read
      · next digit =>
        cases read
        exact ⟨_, spanDigits_digits (c :: tail), by rw [if_neg (spanDigits_ne_nil tail digit)]; rfl⟩
      · cases read
  · cases read
    exact ⟨[], by simp, rfl⟩

/-- The exponent after an `e` is an optional sign and digits. -/
theorem readExponent_ok {cs ex after : List Char} (read : readExponent cs = .ok (ex, after))
    : ∃ sign digits, ex = sign ++ digits ∧ (sign = [] ∨ sign = ['+'] ∨ sign = ['-'])
      ∧ digits ≠ [] ∧ ∀ c ∈ digits, c.isDigit := by
  unfold readExponent at read
  split at read
  next sign rest signSplit =>
  have signs : sign = [] ∨ sign = ['+'] ∨ sign = ['-'] := by
    split at signSplit <;> simp_all
  split at read
  · cases read
  · next c tail =>
    split at read
    · next digit =>
      cases read
      exact ⟨sign, _, rfl, signs, spanDigits_ne_nil tail digit, spanDigits_digits (c :: tail)⟩
    · cases read

/-- The exponent of a number is written as an exponent text, or is not there. -/
theorem readExponentPart_ok {cs ex after : List Char} (read : readExponentPart cs = .ok (ex, after))
    : ex = [] ∨ ∃ e : ExponentText, ex = e.marker :: (e.sign ++ e.digits) := by
  unfold readExponentPart at read
  split at read
  · next marker rest =>
    split at read
    · next isMarker =>
      have markers : marker = 'e' ∨ marker = 'E' := by simpa using isMarker
      cases exponent : readExponent rest with
      | error => simp [exponent] at read
      | ok result =>
        obtain ⟨sign, digits, shape, signs, nonempty, all⟩ :=
          readExponent_ok (show readExponent rest = .ok (result.1, result.2) from exponent)
        simp only [exponent] at read
        have same : (marker :: result.1, result.2) = (ex, after) := Except.ok.inj read
        cases same
        exact .inr ⟨⟨marker, sign, digits, markers, signs, nonempty, all⟩, by rw [shape]⟩
    · cases read
      exact .inl rfl
  · cases read
    exact .inl rfl

/-- What follows the integer part of a number, put after any sign and integer part, makes a
numeral. -/
theorem readNumberTail_ok {cs tail after : List Char} (read : readNumberTail cs = .ok (tail, after))
    (negative : Bool) {whole : List Char} (nonempty : whole ≠ []) (digits : ∀ c ∈ whole, c.isDigit)
    : ∃ n : Numeral, n.negative = negative ∧ n.whole = whole ∧ tail = n.pointPart ++ n.exponentPart := by
  unfold readNumberTail at read
  simp only [bind, Except.bind] at read
  split at read
  · cases read
  next _ pair fractionRead =>
  obtain ⟨frac, rest⟩ := pair
  split at read
  · cases read
  next _ pair exponentRead =>
  obtain ⟨ex, after'⟩ := pair
  cases read
  obtain ⟨fraction, fractionDigits, rfl⟩ := readFraction_ok fractionRead
  rcases readExponentPart_ok exponentRead with rfl | ⟨e, rfl⟩
  · exact ⟨⟨negative, whole, fraction, none, nonempty, digits, fractionDigits⟩, rfl, rfl,
      by simp [Numeral.pointPart, Numeral.exponentPart]⟩
  · exact ⟨⟨negative, whole, fraction, some e, nonempty, digits, fractionDigits⟩, rfl, rfl,
      by simp [Numeral.pointPart, Numeral.exponentPart]⟩

/-- Every number the JSON reader takes is the text of a numeral. -/
theorem readNumber_numeral {cs after : List Char} {text : String}
    (read : readNumber cs = .ok (text, after)) : ∃ n : Numeral, n.text = text := by
  unfold readNumber at read
  split at read
  next minus rest signSplit =>
  have signs : minus = [] ∨ minus = ['-'] := by
    split at signSplit <;> simp_all
  simp only [bind, Except.bind] at read
  split at read
  · cases read
  next _ pair wholeRead =>
  obtain ⟨whole, after'⟩ := pair
  split at read
  · cases read
  next _ pair tailRead =>
  obtain ⟨tail, after''⟩ := pair
  cases read
  obtain ⟨nonempty, digits⟩ := readWhole_ok wholeRead
  obtain ⟨n, negative, rfl, rfl⟩ := readNumberTail_ok tailRead (minus = ['-']) nonempty digits
  have sign : n.sign = minus := by
    rcases signs with rfl | rfl <;> simp [Numeral.sign, negative]
  exact ⟨n, by simp [Numeral.text, Numeral.body, sign]⟩

end Conform.JsonValue

namespace Conform

open Number

-----------------------------------------------------------------------------------------
-- Values a decimal type admits, read as decimals
-----------------------------------------------------------------------------------------

namespace Value

/-- A JSON number reads as the decimal of its digits and exponents when both exponents fit in
32 bits, and not at all otherwise. -/
theorem toDecimal?_number (n : Numeral)
    : (Value.number n.text).toDecimal? = if n.Fits then some n.decimal else none := by
  simp only [toDecimal?, n.ofString_text]
  split_ifs <;> rfl

example : (Value.number "-1.25e2").toDecimal? = some ⟨-125, 0⟩ := by decide

/-- A value a decimal type admits reads as a decimal unless it is a JSON number. -/
theorem toDecimal?_of_admits {b : Basics} {least most : Option Decimal} {places : Option Int}
    {v : Value} (admitted : (DataType.decimal b least most places).admits v = true)
    (notNumber : ∀ s, v ≠ .number s) : ∃ d, v.toDecimal? = some d := by
  cases v with
  | number s => exact absurd rfl (notNumber s)
  | float x =>
    have finite : isFiniteFloat x = true := by simpa [DataType.admits, toFloat?] using admitted
    exact ⟨Decimal.ofFloat x, by simp [toDecimal?, finite]⟩
  | float32 x =>
    have finite : isFiniteFloat (widen x) = true := by
      simpa [DataType.admits, toFloat?] using admitted
    exact ⟨Decimal.ofFloat32 x, by simp [toDecimal?, finite]⟩
  | int n => exact ⟨_, rfl⟩
  | uint n => exact ⟨_, rfl⟩
  | decimal d => exact ⟨d, rfl⟩
  | ref target =>
    cases target
    case decimal d => exact ⟨d, rfl⟩
    all_goals simp [DataType.admits, toFloat?] at admitted
  | _ => simp [DataType.admits, toFloat?] at admitted

end Value

/-- A rule on decimals passes a JSON number when both its exponents fit in 32 bits and the test
passes the decimal of its digits. -/
theorem Rule.forDecimal_check_number (n : Numeral) (name description : String)
    (test : Decimal → Bool)
    : (forDecimal name description test).check (.number n.text)
      = .ofBool (decide n.Fits && test n.decimal) := by
  by_cases fits : n.Fits
  · have reads := Value.toDecimal?_number n
    rw [if_pos fits] at reads
    simp [forDecimal_check_of reads, fits]
  · have unread := Value.toDecimal?_number n
    rw [if_neg fits] at unread
    simp [forDecimal_check_of_none unread, fits]

/-- A value that a decimal type admits reads as a decimal, and each rule on decimals tests that
decimal, unless it is a JSON number. A number the JSON reader takes is a numeral; its decimal has
the value it writes, and a rule on decimals passes it when both its exponents fit in 32 bits and
the test passes that decimal. A numeral whose exponent is too large thus fails every such rule,
whether the type admits it or not. -/
theorem decimal_admitted_reads_unless_exponent_too_large {b : Basics}
    {least most : Option Decimal} {places : Option Int} (v : Value)
    (admitted : (DataType.decimal b least most places).admits v = true)
    : ((∀ s, v ≠ .number s) → ∃ d, v.toDecimal? = some d ∧
          ∀ name description test, (Rule.forDecimal name description test).check v = .ofBool (test d))
      ∧ ∀ cs s after, JsonValue.readNumber cs = .ok (s, after) → v = .number s →
          ∃ n : Numeral, n.text = s ∧ n.decimal.value = n.value ∧
            ∀ name description test, (Rule.forDecimal name description test).check v
              = .ofBool (decide n.Fits && test n.decimal) := by
  constructor
  · intro notNumber
    obtain ⟨d, read⟩ := Value.toDecimal?_of_admits admitted notNumber
    exact ⟨d, read, Rule.forDecimal_check_of read⟩
  · intro cs s after read number
    obtain ⟨n, rfl⟩ := JsonValue.readNumber_numeral read
    subst number
    exact ⟨n, rfl, n.decimal_value, Rule.forDecimal_check_number n⟩

/-- The number `1e-3000000000` reads as the float zero, which a decimal type admits, though its
exponent is past 32 bits. -/
theorem tiny_exponent_number_admitted
    : (DataType.decimal ⟨"Amount", "", false, []⟩ none none none).admits
        (.number "1e-3000000000") = true
      ∧ ∃ n : Numeral, n.text = "1e-3000000000" ∧ n.decimal.value = n.value ∧
        ∀ name description test, (Rule.forDecimal name description test).check
            (.number "1e-3000000000") = .ofBool (decide n.Fits && test n.decimal) := by
  have admitted : (DataType.decimal ⟨"Amount", "", false, []⟩ none none none).admits
      (.number "1e-3000000000") = true := by decide +kernel
  have read : JsonValue.readNumber "1e-3000000000".toList = .ok ("1e-3000000000", []) := by rfl
  exact ⟨admitted,
    (decimal_admitted_reads_unless_exponent_too_large _ admitted).2 _ _ _ read rfl⟩

/-- A decimal type admits the number `1e-3000000000`, which does not read as a decimal, so it fails
the minimum `0` that its value passes. -/
theorem tinyExponent_fails_minimum
    : (DataType.decimal ⟨"Amount", "", false, []⟩ none none none).admits
        (.number "1e-3000000000") = true
      ∧ (Value.number "1e-3000000000").toDecimal? = none
      ∧ (Rule.decimalAtLeast ⟨0, 0⟩).check (.number "1e-3000000000") = .fail :=
  ⟨by decide +kernel, by decide, by decide⟩

end Conform
