import Conform.Yaml.Token
/-! Splitting YAML text into tokens, keeping the indentation levels, the flow level and the place
where a simple key may have started.
-/

namespace Conform.Yaml

/-- A place where a key without `?` may have started. -/
structure SimpleKey where
  possible : Bool := false
  required : Bool := false
  tokenNumber : Nat := 0
  mark : Mark := {}
  deriving Repr, Inhabited

/-- The scanner: the text, the place reached, the queue of tokens not yet taken, and the
block and flow structure around the place reached. -/
structure Scanner where
  text : Array Char
  pos : Nat := 0
  mark : Mark := {}
  /-- Tokens scanned and not yet taken, first one first. -/
  queue : List Token := []
  /-- How many tokens have been taken. -/
  taken : Nat := 0
  started : Bool := false
  ended : Bool := false
  indent : Int := -1
  indents : List Int := []
  simpleKeyAllowed : Bool := false
  /-- One possible simple key per flow level, the innermost last. -/
  simpleKeys : Array SimpleKey := #[]
  /-- Token numbers of saved simple keys, with their place in `simpleKeys`. -/
  keysByToken : List (Nat × Nat) := []
  flowLevel : Nat := 0
  deriving Inhabited

/-- Scanning steps: they change the scanner or stop at a fault. -/
abbrev ScanM := StateT Scanner (Except Fault)

/-- A line break: carriage return, line feed, next line, line separator, paragraph separator. -/
def isBreak (c : Char) : Bool :=
  c == '\r' || c == '\n' || c == '\u0085' || c == '\u2028' || c == '\u2029'

/-- A space or a tab. -/
def isBlank (c : Char) : Bool := c == ' ' || c == '\t'

/-- The end of the text, which reads as the NUL character. -/
def isEnd (c : Char) : Bool := c == '\x00'

/-- A blank, a break or the end. -/
def isBlankOrEnd (c : Char) : Bool := isBlank c || isBreak c || isEnd c

/-- A break or the end. -/
def isBreakOrEnd (c : Char) : Bool := isBreak c || isEnd c

/-- An ASCII letter or digit, the underscore or the hyphen. -/
def isWordChar (c : Char) : Bool :=
  ('0' ≤ c && c ≤ '9') || ('A' ≤ c && c ≤ 'Z') || ('a' ≤ c && c ≤ 'z') || c == '_' || c == '-'

/-- An ASCII hex digit. -/
def isHexChar (c : Char) : Bool :=
  ('0' ≤ c && c ≤ '9') || ('A' ≤ c && c ≤ 'F') || ('a' ≤ c && c ≤ 'f')

/-- The value of a hex digit. -/
def hexValue (c : Char) : Nat :=
  if c ≤ '9' then c.toNat - 48 else if c ≤ 'F' then c.toNat - 55 else c.toNat - 87

namespace Scanner

/-- The character `k` places after the place reached, NUL past the end. -/
def charAt (s : Scanner) (k : Nat) : Char := s.text.getD (s.pos + k) '\x00'

/-- A scanner at the start of a text. -/
def ofText (text : Array Char) : Scanner := { text }

/-- How many characters are left, a bound for every loop over the text. -/
def left (s : Scanner) : Nat := s.text.size - s.pos + 1

end Scanner

/-- The character `k` places ahead. -/
def peekAt (k : Nat) : ScanM Char := do return (← get).charAt k

/-- The current character. -/
def current : ScanM Char := peekAt 0

/-- The current mark. -/
def currentMark : ScanM Mark := do return (← get).mark

/-- Whether the flow level is zero. -/
def inBlock : ScanM Bool := do return (← get).flowLevel == 0

/-- Step over one character on the same line. -/
def skip : ScanM Unit :=
  modify fun s => { s with
    pos := s.pos + 1
    mark := { s.mark with index := s.mark.index + 1, column := s.mark.column + 1 } }

/-- Step over a line break, two characters for carriage return and line feed. -/
def skipLine : ScanM Unit :=
  modify fun s =>
    if s.charAt 0 == '\r' && s.charAt 1 == '\n' then
      { s with pos := s.pos + 2
               mark := { index := s.mark.index + 2, line := s.mark.line + 1, column := 0 } }
    else if isBreak (s.charAt 0) then
      { s with pos := s.pos + 1
               mark := { index := s.mark.index + 1, line := s.mark.line + 1, column := 0 } }
    else s

/-- Append the current character to a text and step over it. -/
def readChar (acc : String) : ScanM String := do
  let c ← current
  skip
  return acc.push c

/-- Append a line break to a text and step over it: carriage return, line feed and their pair
become a line feed, next line too, and the two separators stay as they are. -/
def readBreak (acc : String) : ScanM String := do
  let c ← current
  let c1 ← peekAt 1
  if c == '\r' && c1 == '\n' then
    skipLine
    return acc.push '\n'
  else if c == '\r' || c == '\n' || c == '\u0085' then
    skipLine
    return acc.push '\n'
  else if c == '\u2028' || c == '\u2029' then
    skipLine
    return acc.push c
  else return acc

/-- Stop at a fault found while splitting the text into tokens. -/
def scanFault (context : String) (contextMark : Mark) (problem : String) : ScanM α := do
  let s ← get
  throw { stage := .scanner, context, contextMark, problem, problemMark := s.mark }

/-- Put a token at the end of the queue. -/
def enqueue (t : Token) : ScanM Unit :=
  modify fun s => { s with queue := s.queue ++ [t] }

/-- Put a token into the queue after the first `k` waiting tokens. -/
def enqueueAt (k : Nat) (t : Token) : ScanM Unit :=
  modify fun s => { s with queue := s.queue.take k ++ t :: s.queue.drop k }

/-- The number the next scanned token will have. -/
def nextTokenNumber : ScanM Nat := do
  let s ← get
  return s.taken + s.queue.length

/-- The possible simple key of the innermost flow level. -/
def lastSimpleKey : ScanM SimpleKey := do
  let s ← get
  return s.simpleKeys.back?.getD {}

/-- Replace the possible simple key of the innermost flow level. -/
def setLastSimpleKey (k : SimpleKey) : ScanM Unit :=
  modify fun s =>
    if s.simpleKeys.isEmpty then s
    else { s with simpleKeys := s.simpleKeys.set! (s.simpleKeys.size - 1) k }

/-- Forget the saved key with a token number. -/
def forgetKeyNumber (n : Nat) : ScanM Unit :=
  modify fun s => { s with keysByToken := s.keysByToken.filter (·.1 != n) }

/-- Drop the possible simple key of the innermost level; a required one is a fault. -/
def removeSimpleKey : ScanM Unit := do
  let k ← lastSimpleKey
  if k.possible then
    if k.required then
      scanFault "while scanning a simple key" k.mark "could not find expected ':'"
    setLastSimpleKey { k with possible := false }
    forgetKeyNumber k.tokenNumber

/-- Note that a simple key may start here, if one may; in block context one must, when the
place is at the current indentation. -/
def saveSimpleKey : ScanM Unit := do
  let s ← get
  let required := s.flowLevel == 0 && s.indent == (s.mark.column : Int)
  if s.simpleKeyAllowed then
    let n ← nextTokenNumber
    let key : SimpleKey := { possible := true, required, tokenNumber := n, mark := s.mark }
    removeSimpleKey
    setLastSimpleKey key
    modify fun s =>
      { s with keysByToken := (n, s.simpleKeys.size - 1) :: s.keysByToken.filter (·.1 != n) }

/-- Whether a possible simple key is still possible: it must be on the line reached and at
most 1024 characters back; a required key that is no longer possible is a fault. -/
def keyStillPossible (k : SimpleKey) : ScanM (Bool × SimpleKey) := do
  if !k.possible then return (false, k)
  let s ← get
  if k.mark.line < s.mark.line || k.mark.index + 1024 < s.mark.index then
    if k.required then
      scanFault "while scanning a simple key" k.mark "could not find expected ':'"
    return (false, { k with possible := false })
  return (true, k)

/-- Open a flow level, with no possible key on it. -/
def increaseFlowLevel : ScanM Unit := do
  let s ← get
  set { s with simpleKeys := s.simpleKeys.push { mark := s.mark }, flowLevel := s.flowLevel + 1 }
  if s.flowLevel + 1 > 10000 then
    scanFault "while increasing flow level" s.mark "exceeded max depth of 10000"

/-- Close a flow level. -/
def decreaseFlowLevel : ScanM Unit := do
  let s ← get
  if s.flowLevel > 0 then
    let last := s.simpleKeys.back?.getD {}
    set { s with flowLevel := s.flowLevel - 1, simpleKeys := s.simpleKeys.pop,
                 keysByToken := s.keysByToken.filter (·.1 != last.tokenNumber) }

/-- In block context, open an indentation level at `column` if it is deeper than the current
one, and put a start token of kind `kind` into the queue, at the end or before the token with
number `number`. -/
def rollIndent (column : Nat) (number : Option Nat) (kind : TokenKind) (mark : Mark) :
    ScanM Unit := do
  let s ← get
  if s.flowLevel > 0 then return
  if s.indent < (column : Int) then
    set { s with indents := s.indent :: s.indents, indent := column }
    if s.indents.length + 1 > 10000 then
      let k := s.simpleKeys.back?.getD {}
      scanFault "while increasing indent level" k.mark "exceeded max depth of 10000"
    let t : Token := { kind, start := mark, stop := mark }
    match number with
    | some n => enqueueAt (n - s.taken) t
    | none => enqueue t

/-- In block context, close every indentation level deeper than `column`, putting a block end
marked at `mark` into the queue for each. -/
def unrollIndent (column : Int) (mark : Mark) (fuel : Nat) : ScanM Unit := do
  match fuel with
  | 0 => return
  | fuel + 1 =>
    let s ← get
    if s.flowLevel > 0 then return
    if s.indent > column then
      let t : Token := { kind := .blockEnd, start := mark, stop := mark }
      match s.indents with
      | i :: rest => set { s with indent := i, indents := rest, queue := s.queue ++ [t] }
      | [] => set { s with indent := -1, queue := s.queue ++ [t] }
      unrollIndent column mark fuel

/-- Close indentation levels deeper than `column`; the block ends are marked where the
scanning for the next token began, one character back. -/
def unroll (column : Int) (scanMark : Mark) : ScanM Unit := do
  let s ← get
  unrollIndent column { scanMark with index := scanMark.index - 1 } (s.indents.length + 1)

/-- Step over blanks, comments and line breaks up to the next token; a line break in block
context lets a simple key start. Tabs are stepped over only inside flow collections or where
no simple key may start. -/
def skipToToken (fuel : Nat) : ScanM Unit := do
  match fuel with
  | 0 => return
  | fuel + 1 =>
    let s ← get
    if s.mark.column == 0 && s.charAt 0 == '\uFEFF' then skip
    skipBlanks (← get).left
    if (← current) == '#' then skipComment (← get).left
    if isBreak (← current) then
      skipLine
      if (← inBlock) then modify fun s => { s with simpleKeyAllowed := true }
      skipToToken fuel
where
  skipBlanks : Nat → ScanM Unit
    | 0 => return
    | n + 1 => do
      let s ← get
      let c := s.charAt 0
      if c == ' ' || ((s.flowLevel > 0 || !s.simpleKeyAllowed) && c == '\t') then
        skip
        skipBlanks n
  skipComment : Nat → ScanM Unit
    | 0 => return
    | n + 1 => do
      if !isBreakOrEnd (← current) then
        skip
        skipComment n

end Conform.Yaml
