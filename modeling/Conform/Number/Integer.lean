/-!
Reading whole numbers from text in a base from 2 to 36, or with the base given by a prefix:
`0b` binary, `0o` or a bare leading `0` octal, `0x` hexadecimal, decimal otherwise. With a
prefix base, underscores may stand between digits. A reading fails as out of range as soon as
the digits read so far pass the limit, before the rest of the text is looked at.
-/

namespace Conform.Number

/-- Why a text is not a number of the wanted kind. -/
inductive NumberFault where
  /-- The text is not written as such a number. -/
  | malformed
  /-- The number is written well but does not fit. -/
  | range
  deriving Repr, DecidableEq, Inhabited

/-- The text of a fault, as a reason after the text read. -/
def NumberFault.reason : NumberFault → String
  | .malformed => "invalid syntax"
  | .range => "value out of range"

/-- Whether the underscores of a number's text each stand between two digits, or between a base
prefix and a digit. -/
def underscoresFit (s : List Char) : Bool :=
  let s := match s with
    | c :: rest => if c == '-' || c == '+' then rest else s
    | [] => []
  -- the state: 0 at the start, 1 after a digit or prefix, 2 after an underscore, 3 otherwise
  let (hex, start, rest) := match s with
    | '0' :: b :: rest =>
      let b := b.toLower
      if b == 'b' || b == 'o' || b == 'x' then (b == 'x', 1, rest) else (false, 0, s)
    | _ => (false, 0, s)
  let step (saw : Option Nat) (c : Char) : Option Nat :=
    match saw with
    | none => none
    | some saw =>
      if c.isDigit || (hex && 'a' ≤ c.toLower && c.toLower ≤ 'f') then some 1
      else if c == '_' then (if saw == 1 then some 2 else none)
      else if saw == 2 then none
      else some 3
  match rest.foldl step (some start) with
  | some saw => saw != 2
  | none => false

/-- The value of a digit character in bases up to 36. -/
def digitValue (c : Char) : Nat :=
  if c.isDigit then c.toNat - '0'.toNat
  else if 'a' ≤ c.toLower && c.toLower ≤ 'z' then c.toLower.toNat - 'a'.toNat + 10
  else 36

/-- Read the digits of an unsigned number below `2^bits` in a base; `underscores` lets them be
skipped (and then checked). -/
def readDigits (base bits : Nat) (underscores : Bool) (whole : List Char) :
    List Char → Nat → Bool → Except NumberFault Nat
  | [], n, saw =>
    if saw && !underscoresFit whole then .error .malformed else .ok n
  | c :: rest, n, saw =>
    if c == '_' && underscores then readDigits base bits underscores whole rest n true
    else
      let d := digitValue c
      if d ≥ base then .error .malformed
      else if n * base + d ≥ Nat.pow 2 bits then .error .range
      else readDigits base bits underscores whole rest (n * base + d) saw

/-- Read an unsigned number below `2^bits` in a base; base 0 takes the base from a prefix. -/
def readNat (text : String) (base bits : Nat) : Except NumberFault Nat :=
  let s := text.toList
  if s.isEmpty then .error .malformed
  else
    let prefixed := base == 0
    let (base, digits) :=
      if base != 0 then (base, s)
      else match s with
        | '0' :: b :: c :: rest =>
          let b := b.toLower
          if b == 'b' then (2, c :: rest)
          else if b == 'o' then (8, c :: rest)
          else if b == 'x' then (16, c :: rest)
          else (8, b :: c :: rest)
        | '0' :: rest => (8, rest)
        | _ => (10, s)
    readDigits base bits prefixed s digits 0 false

/-- Read a signed number in `[-2^(bits-1), 2^(bits-1))` in a base; base 0 takes the base from a
prefix after the sign. -/
def readInt (text : String) (base bits : Nat) : Except NumberFault Int :=
  let s := text.toList
  if s.isEmpty then .error .malformed
  else
    let (negative, body) := match s with
      | '+' :: rest => (false, rest)
      | '-' :: rest => (true, rest)
      | _ => (false, s)
    let limit := Nat.pow 2 (bits - 1)
    match readNat (String.ofList body) base bits with
    | .error .malformed => .error .malformed
    | .error .range => .error .range
    | .ok n =>
      if !negative && n ≥ limit then .error .range
      else if negative && n > limit then .error .range
      else .ok (if negative then -(n : Int) else n)

end Conform.Number
