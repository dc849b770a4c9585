import Conform.Json.Value
import Conform.Text.Quoted
/-! Reading JSON text: one value from the front of the text and the text after it, or the first
fault met; numbers keep their text.
-/

namespace Conform

/-- Where in a document a character was refused: the phrase the fault message ends with. -/
inductive JsonPlace where
  | valueStart
  | keyStart
  | afterKey
  | afterMember
  | afterElement
  | inString
  | inNumber
  | afterPoint
  | inExponent
  /-- Inside the literal `word`, where `expected` should have come. -/
  | inLiteral (word : String) (expected : Char)
  deriving Repr, DecidableEq

/-- The phrase that names a place. -/
def JsonPlace.phrase : JsonPlace → String
  | .valueStart => "looking for beginning of value"
  | .keyStart => "looking for beginning of object key string"
  | .afterKey => "after object key"
  | .afterMember => "after object key:value pair"
  | .afterElement => "after array element"
  | .inString => "in string literal"
  | .inNumber => "in numeric literal"
  | .afterPoint => "after decimal point in numeric literal"
  | .inExponent => "in exponent of numeric literal"
  | .inLiteral word expected =>
    "in literal " ++ word ++ " (expecting " ++ Text.quoteChar expected ++ ")"

/-- Why a text is not a JSON document. -/
inductive JsonError where
  /-- Nothing but blanks. -/
  | empty
  /-- The text ends inside a value. -/
  | truncated
  | invalidChar (c : Char) (place : JsonPlace)
  /-- A backslash sequence that is no escape, as written. -/
  | invalidEscape (sequence : String)
  /-- More than `maxDepth` arrays and objects open at once. -/
  | tooDeep
  deriving Repr, DecidableEq

/-- Whether an escape sequence is shown in double quotes rather than between backticks. -/
def escapeNeedsQuotes (sequence : String) : Bool :=
  sequence.any fun c =>
    c == '`' || c == '\uFFFD' || c == ' ' || c == '\t' || c == '\n' || c == '\r' ||
      c == '\x0b' || c == '\x0c' || c == '\u0085' || c == '\u00A0' || !Text.isPrintable c

/-- The message of a fault. -/
def JsonError.message : JsonError → String
  | .empty => "EOF"
  | .truncated => "unexpected EOF"
  | .invalidChar c place => "invalid character " ++ Text.quoteChar c ++ " " ++ place.phrase
  | .invalidEscape sequence =>
    if escapeNeedsQuotes sequence then "invalid escape sequence " ++ Text.quote sequence ++ " in string"
    else "invalid escape sequence `" ++ sequence ++ "` in string"
  | .tooDeep => "exceeded max depth"

namespace JsonValue

/-- Arrays and objects may be nested up to this many levels. -/
def maxDepth : Nat := 9999

/-- The blanks between tokens: space, tab, line feed and carriage return. -/
def isBlank (c : Char) : Bool := c == ' ' || c == '\t' || c == '\n' || c == '\r'

/-- The text after its leading blanks. -/
def skipBlanks (cs : List Char) : List Char := cs.dropWhile isBlank

/-- The value of a hex digit. -/
def hexValue? (c : Char) : Option Nat :=
  if '0' ≤ c ∧ c ≤ '9' then some (c.toNat - 48)
  else if 'a' ≤ c ∧ c ≤ 'f' then some (c.toNat - 87)
  else if 'A' ≤ c ∧ c ≤ 'F' then some (c.toNat - 55)
  else none

/-- The number written by four hex digits. -/
def hex4? : List Char → Option Nat
  | [a, b, c, d] => do
    let a ← hexValue? a
    let b ← hexValue? b
    let c ← hexValue? c
    let d ← hexValue? d
    pure (((a * 16 + b) * 16 + c) * 16 + d)
  | _ => none

/-- Whether `n` is a UTF-16 surrogate. -/
def isSurrogate (n : Nat) : Bool := 0xD800 ≤ n && n < 0xE000

/-- The character a `\u` escape of `n` stands for, U+FFFD for a surrogate. -/
def unitChar (n : Nat) : Char :=
  if isSurrogate n then '\uFFFD' else Char.ofNat n

/-- A `\u` escape after its `\u`: the character, and how many characters it takes, four
or, for a surrogate pair, ten. -/
def readUnicodeEscape (cs : List Char) : Except JsonError (Char × Nat) :=
  let digits := cs.take 4
  match hex4? digits with
  | none =>
    if digits.length < 4 && digits.all (fun c => (hexValue? c).isSome) then .error .truncated
    else .error (.invalidEscape ("\\u" ++ String.ofList digits))
  | some n =>
    if 0xD800 ≤ n && n < 0xDC00 then
      match cs.drop 4 with
      | '\\' :: 'u' :: more =>
        match hex4? (more.take 4) with
        | some m =>
          if 0xDC00 ≤ m && m < 0xE000 then
            .ok (Char.ofNat (0x10000 + (n - 0xD800) * 0x400 + (m - 0xDC00)), 10)
          else .ok ('\uFFFD', 4)
        | none => .ok ('\uFFFD', 4)
      | _ => .ok ('\uFFFD', 4)
    else .ok (unitChar n, 4)

/-- The characters of a string after its opening quote, up to and without the closing quote,
and the text after that quote. -/
def readStringBody (acc : List Char) : List Char → Except JsonError (String × List Char)
  | [] => .error .truncated
  | '"' :: rest => .ok (String.ofList acc.reverse, rest)
  | '\\' :: rest =>
    match rest with
    | [] => .error .truncated
    | 'u' :: more =>
      match readUnicodeEscape more with
      | .ok (c, taken) => readStringBody (c :: acc) (more.drop taken)
      | .error e => .error e
    | e :: more =>
      match e with
      | '"' => readStringBody ('"' :: acc) more
      | '\\' => readStringBody ('\\' :: acc) more
      | '/' => readStringBody ('/' :: acc) more
      | 'b' => readStringBody ('\x08' :: acc) more
      | 'f' => readStringBody ('\x0c' :: acc) more
      | 'n' => readStringBody ('\n' :: acc) more
      | 'r' => readStringBody ('\r' :: acc) more
      | 't' => readStringBody ('\t' :: acc) more
      | _ => .error (.invalidEscape (String.ofList ['\\', e]))
  | c :: rest =>
    if c.toNat < 0x20 then .error (.invalidChar c .inString)
    else readStringBody (c :: acc) rest
termination_by cs => cs.length

/-- The digits at the front of a text, and the text after them. -/
def spanDigits (cs : List Char) : List Char × List Char :=
  (cs.takeWhile Char.isDigit, cs.dropWhile Char.isDigit)

/-- The exponent of a number after its `e`: an optional sign, then at least one digit. -/
def readExponent (cs : List Char) : Except JsonError (List Char × List Char) :=
  let (sign, rest) := match cs with
    | '+' :: r => (['+'], r)
    | '-' :: r => (['-'], r)
    | r => ([], r)
  match rest with
  | [] => .error .truncated
  | c :: _ =>
    if c.isDigit then
      let (ds, after) := spanDigits rest
      .ok (sign ++ ds, after)
    else .error (.invalidChar c .inExponent)

/-- The fraction of a number: a point and at least one digit, or nothing. -/
def readFraction (cs : List Char) : Except JsonError (List Char × List Char) :=
  match cs with
  | '.' :: r =>
    match r with
    | [] => .error .truncated
    | c :: _ =>
      if c.isDigit then
        let (ds, after) := spanDigits r
        .ok ('.' :: ds, after)
      else .error (.invalidChar c .afterPoint)
  | r => .ok ([], r)

/-- The exponent of a number from its `e` or `E` on, or nothing when none follows. -/
def readExponentPart (cs : List Char) : Except JsonError (List Char × List Char) :=
  match cs with
  | e :: r =>
    if e == 'e' || e == 'E' then do
      let (ex, after) ← readExponent r
      pure (e :: ex, after)
    else .ok ([], cs)
  | [] => .ok ([], [])

/-- The fraction and exponent of a number whose integer part has been read. -/
def readNumberTail (cs : List Char) : Except JsonError (List Char × List Char) := do
  let (frac, rest) ← readFraction cs
  let (ex, after) ← readExponentPart rest
  pure (frac ++ ex, after)

/-- The integer part of a number: a zero, or digits not starting with zero. -/
def readWhole (cs : List Char) : Except JsonError (List Char × List Char) :=
  match cs with
  | [] => .error .truncated
  | '0' :: r => .ok (['0'], r)
  | c :: _ => if c.isDigit then .ok (spanDigits cs) else .error (.invalidChar c .inNumber)

/-- A number from its first character on: an optional minus, a zero or digits not starting
with zero, then an optional fraction and exponent. -/
def readNumber (cs : List Char) : Except JsonError (String × List Char) := do
  let (minus, rest) := match cs with
    | '-' :: r => (['-'], r)
    | r => ([], r)
  let (int, after) ← readWhole rest
  let (tail, after) ← readNumberTail after
  pure (String.ofList (minus ++ int ++ tail), after)

/-- The rest of the literal `word` after its first character, which has been read. -/
def readLiteral (word : String) : List Char → List Char → Except JsonError (List Char)
  | [], cs => .ok cs
  | _ :: _, [] => .error .truncated
  | w :: ws, c :: cs =>
    if c == w then readLiteral word ws cs else .error (.invalidChar c (.inLiteral word w))

mutual

/-- One value from the front of a text with `depth` arrays and objects open around it. The
fuel bounds the steps; a text of length `n` needs at most `n + 1`. -/
def readValue (depth : Nat) : Nat → List Char → Except JsonError (JsonValue × List Char)
  | 0, _ => .error .truncated
  | fuel + 1, cs =>
    match skipBlanks cs with
    | [] => .error .truncated
    | c :: rest =>
      match c with
      | '{' =>
        if depth ≥ maxDepth then .error .tooDeep
        else
          match skipBlanks rest with
          | '}' :: after => .ok (.object [], after)
          | '"' :: _ => readMembers (depth + 1) fuel [] (skipBlanks rest)
          | [] => .error .truncated
          | d :: _ => .error (.invalidChar d .keyStart)
      | '[' =>
        if depth ≥ maxDepth then .error .tooDeep
        else
          match skipBlanks rest with
          | ']' :: after => .ok (.array [], after)
          | more => readElements (depth + 1) fuel [] more
      | '"' => do
        let (s, after) ← readStringBody [] rest
        pure (.string s, after)
      | 't' => do
        let after ← readLiteral "true" ['r', 'u', 'e'] rest
        pure (.bool true, after)
      | 'f' => do
        let after ← readLiteral "false" ['a', 'l', 's', 'e'] rest
        pure (.bool false, after)
      | 'n' => do
        let after ← readLiteral "null" ['u', 'l', 'l'] rest
        pure (.null, after)
      | _ =>
        if c == '-' || c.isDigit then do
          let (text, after) ← readNumber (c :: rest)
          pure (.number text, after)
        else .error (.invalidChar c .valueStart)

/-- The elements of an array from the next one on, after `acc` read in reverse. -/
def readElements (depth : Nat) : Nat → List JsonValue → List Char →
    Except JsonError (JsonValue × List Char)
  | 0, _, _ => .error .truncated
  | fuel + 1, acc, cs => do
    let (v, after) ← readValue depth fuel cs
    match skipBlanks after with
    | ',' :: more => readElements depth fuel (v :: acc) more
    | ']' :: more => pure (.array (v :: acc).reverse, more)
    | [] => .error .truncated
    | d :: _ => .error (.invalidChar d .afterElement)

/-- The members of an object from the next key on, after `acc` read in reverse; the text
starts at the key's opening quote. -/
def readMembers (depth : Nat) : Nat → List (String × JsonValue) → List Char →
    Except JsonError (JsonValue × List Char)
  | 0, _, _ => .error .truncated
  | fuel + 1, acc, cs =>
    match cs with
    | '"' :: rest => do
      let (key, after) ← readStringBody [] rest
      match skipBlanks after with
      | ':' :: more =>
        let (v, after) ← readValue depth fuel more
        match skipBlanks after with
        | ',' :: more =>
          match skipBlanks more with
          | '"' :: _ => readMembers depth fuel ((key, v) :: acc) (skipBlanks more)
          | [] => .error .truncated
          | d :: _ => .error (.invalidChar d .keyStart)
        | '}' :: more => pure (.object ((key, v) :: acc).reverse, more)
        | [] => .error .truncated
        | d :: _ => .error (.invalidChar d .afterMember)
      | [] => .error .truncated
      | d :: _ => .error (.invalidChar d .afterKey)
    | [] => .error .truncated
    | d :: _ => .error (.invalidChar d .keyStart)

end

/-- The first value of a text and the text after it; a text of blanks has none. -/
def readPrefix (text : String) : Except JsonError (JsonValue × List Char) :=
  let cs := text.toList
  match skipBlanks cs with
  | [] => .error .empty
  | _ => readValue 0 (cs.length + 1) cs

end JsonValue

end Conform
