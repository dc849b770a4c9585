import Conform.Yaml.Scanner.Basic
/-! Scanning the five kinds of scalar: plain, single- and double-quoted, literal and folded, with
the line breaks inside flow scalars folded.
-/

namespace Conform.Yaml

/-- The text gathered so far while scanning a flow scalar, with the blanks and line breaks
not yet joined to it. -/
structure Folding where
  text : String := ""
  leadingBreak : String := ""
  trailingBreaks : String := ""
  whitespaces : String := ""
  leadingBlanks : Bool := false

namespace Folding

/-- Join the pending blanks or breaks to the text: a single line feed folds to a space,
further breaks stay, and blanks on the same line stay. -/
def join (f : Folding) : Folding :=
  if f.leadingBlanks then
    let text :=
      if f.leadingBreak.front == '\n' then
        if f.trailingBreaks.isEmpty then f.text.push ' ' else f.text ++ f.trailingBreaks
      else f.text ++ f.leadingBreak ++ f.trailingBreaks
    { f with text, leadingBreak := "", trailingBreaks := "", leadingBlanks := false }
  else { f with text := f.text ++ f.whitespaces, whitespaces := "" }

end Folding

/-- Whether the text at the current place is a document marker, `---` or `...` at the start
of a line followed by a blank or the end. -/
def atDocumentMarker : ScanM Bool := do
  let s ← get
  let c0 := s.charAt 0
  return s.mark.column == 0 && (c0 == '-' || c0 == '.') && s.charAt 1 == c0 &&
    s.charAt 2 == c0 && isBlankOrEnd (s.charAt 3)

/-- Whether a plain scalar ends before the current character. -/
def endsPlain : ScanM Bool := do
  let s ← get
  let c := s.charAt 0
  return (c == ':' && isBlankOrEnd (s.charAt 1)) ||
    (s.flowLevel > 0 && (c == ',' || c == '?' || c == '[' || c == ']' || c == '{' || c == '}'))

/-- The characters of one run of a plain scalar, up to a blank or an ending indicator. -/
def plainRun (f : Folding) (stop : Mark) : Nat → ScanM (Folding × Mark)
  | 0 => return (f, stop)
  | n + 1 => do
    if isBlankOrEnd (← current) then return (f, stop)
    if (← endsPlain) then return (f, stop)
    let f := if f.leadingBlanks || !f.whitespaces.isEmpty then f.join else f
    let text ← readChar f.text
    let stop ← currentMark
    plainRun { f with text } stop n

/-- The blanks and breaks after a run of a plain scalar; a tab that stands where the
indentation should be is a fault. -/
def plainGap (start : Mark) (indent : Int) (f : Folding) : Nat → ScanM Folding
  | 0 => return f
  | n + 1 => do
    let c ← current
    if isBlank c then
      let col := (← currentMark).column
      if f.leadingBlanks && (col : Int) < indent && c == '\t' then
        scanFault "while scanning a plain scalar" start
          "found a tab character that violates indentation"
      if !f.leadingBlanks then
        let whitespaces ← readChar f.whitespaces
        plainGap start indent { f with whitespaces } n
      else
        skip
        plainGap start indent f n
    else if isBreak c then
      if !f.leadingBlanks then
        let leadingBreak ← readBreak ""
        plainGap start indent { f with whitespaces := "", leadingBreak, leadingBlanks := true } n
      else
        let trailingBreaks ← readBreak f.trailingBreaks
        plainGap start indent { f with trailingBreaks } n
    else return f

/-- The runs of a plain scalar and the gaps between them. -/
def plainLoop (start : Mark) (indent : Int) (f : Folding) (stop : Mark) :
    Nat → ScanM (Folding × Mark)
  | 0 => return (f, stop)
  | n + 1 => do
    if (← atDocumentMarker) then return (f, stop)
    if (← current) == '#' then return (f, stop)
    let (f, stop) ← plainRun f stop (← get).left
    let c ← current
    if !(isBlank c || isBreak c) then return (f, stop)
    let f ← plainGap start indent f (← get).left
    let s ← get
    if s.flowLevel == 0 && (s.mark.column : Int) < indent then return (f, stop)
    plainLoop start indent f stop n

/-- A plain scalar; after one that spans lines a simple key may start. -/
def scanPlainScalar : ScanM Token := do
  let s ← get
  let start := s.mark
  let (f, stop) ← plainLoop start (s.indent + 1) {} start s.left
  if f.leadingBlanks then modify fun s => { s with simpleKeyAllowed := true }
  return { kind := .scalar f.text .plain, start, stop }

/-- The character written by an escape letter of a double-quoted scalar, or the number of hex
digits that follow `x`, `u` and `U`. -/
def escapeOf (c : Char) : Option (Sum Char Nat) :=
  match c with
  | '0' => some (.inl '\x00')
  | 'a' => some (.inl '\x07')
  | 'b' => some (.inl '\x08')
  | 't' => some (.inl '\t')
  | '\t' => some (.inl '\t')
  | 'n' => some (.inl '\n')
  | 'v' => some (.inl '\x0b')
  | 'f' => some (.inl '\x0c')
  | 'r' => some (.inl '\r')
  | 'e' => some (.inl '\x1b')
  | ' ' => some (.inl ' ')
  | '"' => some (.inl '"')
  | '\'' => some (.inl '\'')
  | '\\' => some (.inl '\\')
  | '/' => some (.inl '/')
  | 'N' => some (.inl '\u0085')
  | '_' => some (.inl '\u00A0')
  | 'L' => some (.inl '\u2028')
  | 'P' => some (.inl '\u2029')
  | 'x' => some (.inr 2)
  | 'u' => some (.inr 4)
  | 'U' => some (.inr 8)
  | _ => none

/-- The value of `k` hex digits from the current place, without stepping over them. -/
def hexCode (start : Mark) (k : Nat) : ScanM Nat := do
  let s ← get
  let digits := (List.range k).map fun i => s.charAt i
  if digits.all isHexChar then
    return digits.foldl (fun acc c => acc * 16 + hexValue c) 0
  else scanFault "while parsing a quoted scalar" start "did not find expected hexdecimal number"

/-- Step over `k` characters. -/
def skipN : Nat → ScanM Unit
  | 0 => return
  | k + 1 => do skip; skipN k

/-- The non-blank characters of a quoted scalar up to a blank, a break or the closing quote;
the flag says whether an escaped line break was met. -/
def quotedRun (start : Mark) (single : Bool) (text : String) : Nat → ScanM (String × Bool)
  | 0 => return (text, false)
  | n + 1 => do
    let s ← get
    let c := s.charAt 0
    let c1 := s.charAt 1
    if isBlankOrEnd c then return (text, false)
    if single && c == '\'' && c1 == '\'' then
      skip; skip
      quotedRun start single (text.push '\'') n
    else if single && c == '\'' then return (text, false)
    else if !single && c == '"' then return (text, false)
    else if !single && c == '\\' && isBreak c1 then
      skip
      skipLine
      return (text, true)
    else if !single && c == '\\' then
      match escapeOf c1 with
      | none => scanFault "while parsing a quoted scalar" start "found unknown escape character"
      | some (.inl e) =>
        skip; skip
        quotedRun start single (text.push e) n
      | some (.inr k) =>
        skip; skip
        let code ← hexCode start k
        if (0xD800 ≤ code && code ≤ 0xDFFF) || code > 0x10FFFF then
          scanFault "while parsing a quoted scalar" start "found invalid Unicode character escape code"
        skipN k
        quotedRun start single (text.push (Char.ofNat code)) n
    else
      let text ← readChar text
      quotedRun start single text n

/-- The blanks and breaks inside a quoted scalar. -/
def quotedGap (f : Folding) : Nat → ScanM Folding
  | 0 => return f
  | n + 1 => do
    let c ← current
    if isBlank c then
      if !f.leadingBlanks then
        let whitespaces ← readChar f.whitespaces
        quotedGap { f with whitespaces } n
      else
        skip
        quotedGap f n
    else if isBreak c then
      if !f.leadingBlanks then
        let leadingBreak ← readBreak ""
        quotedGap { f with whitespaces := "", leadingBreak, leadingBlanks := true } n
      else
        let trailingBreaks ← readBreak f.trailingBreaks
        quotedGap { f with trailingBreaks } n
    else return f

/-- Join the gap of a quoted scalar: unlike a plain scalar, a break folds only when it is a
line feed, and blanks before a break are dropped. -/
def joinQuotedGap (f : Folding) : Folding :=
  if f.leadingBlanks then
    let text :=
      if !f.leadingBreak.isEmpty && f.leadingBreak.front == '\n' then
        if f.trailingBreaks.isEmpty then f.text.push ' ' else f.text ++ f.trailingBreaks
      else f.text ++ f.leadingBreak ++ f.trailingBreaks
    { f with text, leadingBreak := "", trailingBreaks := "" }
  else { f with text := f.text ++ f.whitespaces, whitespaces := "" }

/-- The runs and gaps of a quoted scalar up to its closing quote. -/
def quotedLoop (start : Mark) (single : Bool) (text : String) : Nat → ScanM String
  | 0 => return text
  | n + 1 => do
    if (← atDocumentMarker) then
      scanFault "while scanning a quoted scalar" start "found unexpected document indicator"
    if isEnd (← current) then
      scanFault "while scanning a quoted scalar" start "found unexpected end of stream"
    let (text, escapedBreak) ← quotedRun start single text (← get).left
    let c ← current
    if (single && c == '\'') || (!single && c == '"') then return text
    let f ← quotedGap { text, leadingBlanks := escapedBreak } (← get).left
    let f := joinQuotedGap f
    quotedLoop start single f.text n

/-- A single- or double-quoted scalar. -/
def scanQuotedScalar (single : Bool) : ScanM Token := do
  let start ← currentMark
  skip
  let text ← quotedLoop start single "" (← get).left
  skip
  let stop ← currentMark
  return { kind := .scalar text (if single then .singleQuoted else .doubleQuoted), start, stop }

/-- Step over spaces while the column is short of a known indentation. -/
def indentSpaces (indent : Nat) : Nat → ScanM Unit
  | 0 => return
  | m + 1 => do
    let s ← get
    if (indent == 0 || s.mark.column < indent) && s.charAt 0 == ' ' then
      skip
      indentSpaces indent m

/-- Step over the indentation and empty lines before a line of a block scalar, gathering the
breaks; when the indentation is not yet known it becomes the deepest one seen, at least one
more than the enclosing block and at least one. -/
def blockBreaksLoop (start : Mark) (indent : Nat) (breaks : String) (stop : Mark) (maxIndent : Nat) :
    Nat → ScanM (Nat × String × Mark)
  | 0 => return (indent, breaks, stop)
  | n + 1 => do
    indentSpaces indent (← get).left
    let s ← get
    let maxIndent := max maxIndent s.mark.column
    if (indent == 0 || s.mark.column < indent) && s.charAt 0 == '\t' then
      scanFault "while scanning a block scalar" start
        "found a tab character where an indentation space is expected"
    if !isBreak (s.charAt 0) then
      if indent == 0 then
        let least : Int := max (s.indent + 1) 1
        let found := max (maxIndent : Int) least
        return (found.toNat, breaks, stop)
      return (indent, breaks, stop)
    let breaks ← readBreak breaks
    let stop ← currentMark
    blockBreaksLoop start indent breaks stop maxIndent n

/-- The breaks before a line of a block scalar, the indentation, and the mark after the last
break (the current mark when there is none). -/
def blockBreaks (start : Mark) (indent : Nat) (breaks : String) : ScanM (Nat × String × Mark) := do
  blockBreaksLoop start indent breaks (← currentMark) 0 (← get).left

/-- The rest of a line of a block scalar. -/
def restOfLine (text : String) : Nat → ScanM String
  | 0 => return text
  | n + 1 => do
    if isBreakOrEnd (← current) then return text
    let text ← readChar text
    restOfLine text n

/-- The lines of a block scalar at its indentation. -/
def blockLines (start : Mark) (literal : Bool) (indent : Nat) (text leadingBreak trailing : String)
    (leadingBlank : Bool) (stop : Mark) : Nat → ScanM (String × String × String × Mark)
  | 0 => return (text, leadingBreak, trailing, stop)
  | n + 1 => do
    let s ← get
    if !(s.mark.column == indent && !isEnd (s.charAt 0)) then
      return (text, leadingBreak, trailing, stop)
    let trailingBlank := isBlank (s.charAt 0)
    let text :=
      if !literal && !leadingBlank && !trailingBlank && !leadingBreak.isEmpty &&
          leadingBreak.front == '\n' then
        if trailing.isEmpty then text.push ' ' else text
      else text ++ leadingBreak
    let text := text ++ trailing
    let leadingBlank := isBlank (s.charAt 0)
    let text ← restOfLine text (← get).left
    let leadingBreak ← readBreak ""
    let (indent, trailing, stop) ← blockBreaks start indent ""
    blockLines start literal indent text leadingBreak trailing leadingBlank stop n

/-- A literal (`|`) or folded (`>`) block scalar with its optional chomping and indentation
indicators. -/
def scanBlockScalar (literal : Bool) : ScanM Token := do
  let start ← currentMark
  skip
  let mut chomping : Int := 0
  let mut increment : Nat := 0
  let c ← current
  if c == '+' || c == '-' then
    chomping := if c == '+' then 1 else -1
    skip
    let d ← current
    if d.isDigit then
      if d == '0' then
        scanFault "while scanning a block scalar" start "found an indentation indicator equal to 0"
      increment := d.toNat - 48
      skip
  else if c.isDigit then
    if c == '0' then
      scanFault "while scanning a block scalar" start "found an indentation indicator equal to 0"
    increment := c.toNat - 48
    skip
    let d ← current
    if d == '+' || d == '-' then
      chomping := if d == '+' then 1 else -1
      skip
  let rec blanks : Nat → ScanM Unit
    | 0 => return
    | m + 1 => do
      if isBlank (← current) then
        skip
        blanks m
  blanks (← get).left
  if (← current) == '#' then
    let rec comment : Nat → ScanM Unit
      | 0 => return
      | m + 1 => do
        if !isBreakOrEnd (← current) then
          skip
          comment m
    comment (← get).left
  if !isBreakOrEnd (← current) then
    scanFault "while scanning a block scalar" start "did not find expected comment or line break"
  if isBreak (← current) then skipLine
  let s ← get
  let indent : Nat :=
    if increment > 0 then (if s.indent ≥ 0 then s.indent.toNat + increment else increment) else 0
  let (indent, trailing, stop) ← blockBreaks start indent ""
  let (text, leadingBreak, trailing, stop) ←
    blockLines start literal indent "" "" trailing false stop (← get).left
  let text := if chomping != -1 then text ++ leadingBreak else text
  let text := if chomping == 1 then text ++ trailing else text
  return { kind := .scalar text (if literal then .literal else .folded), start, stop }

end Conform.Yaml
