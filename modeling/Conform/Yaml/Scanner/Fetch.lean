import Conform.Yaml.Scanner.Scalar
/-!
Taking the next token from YAML text. The character after the blanks and comments decides
the kind of token; indicators update the indentation and flow levels and the possible simple
keys, and scalars, anchors, aliases, tags and directives are scanned whole. The reader takes
tokens from the front of the queue, which is kept ahead of it as the module
`Conform.Yaml.Scanner.Basic` describes.
-/

namespace Conform.Yaml

/-- Characters that may stand in a tag after its handle. -/
def isTagChar (c : Char) : Bool :=
  isWordChar c || ";/?:@&=+$.!~*'()%".toList.contains c

/-- The text of an anchor or alias name after `&` or `*`. -/
def anchorName (acc : String) : Nat → ScanM String
  | 0 => return acc
  | n + 1 => do
    if isWordChar (← current) then
      let acc ← readChar acc
      anchorName acc n
    else return acc

/-- An anchor (`&name`) or alias (`*name`); the name must be followed by a blank or one of
`?:,]}%@` and a backtick. -/
def scanAnchor (isAlias : Bool) : ScanM Token := do
  let start ← currentMark
  skip
  let name ← anchorName "" (← get).left
  let stop ← currentMark
  let c ← current
  if name.isEmpty || !(isBlankOrEnd c || "?:,]\x7d%@`".toList.contains c) then
    scanFault (if isAlias then "while scanning an alias" else "while scanning an anchor") start
      "did not find expected alphabetic or numeric character"
  return { kind := if isAlias then .alias name else .anchor name, start, stop }

/-- The context of a fault inside a tag or a tag directive. -/
def tagContext (directive : Bool) : String :=
  if directive then "while parsing a %TAG directive" else "while parsing a tag"

/-- A tag handle: `!`, then word characters, then `!` if there is one. -/
def tagHandle (directive : Bool) (start : Mark) : ScanM String := do
  if (← current) != '!' then
    scanFault (tagContext directive) start "did not find expected '!'"
  let acc ← readChar ""
  let rec word : Nat → String → ScanM String
    | 0, acc => return acc
    | n + 1, acc => do
      if isWordChar (← current) then
        let acc ← readChar acc
        word n acc
      else return acc
  let acc ← word (← get).left acc
  if (← current) == '!' then readChar acc
  else
    if directive && acc != "!" then
      scanFault (tagContext directive) start "did not find expected '!'"
    return acc

/-- One octet written as `%` and two hex digits. -/
def uriOctet (directive : Bool) (start : Mark) : ScanM Nat := do
  let s ← get
  if !(s.charAt 0 == '%' && isHexChar (s.charAt 1) && isHexChar (s.charAt 2)) then
    scanFault (tagContext directive) start "did not find URI escaped octet"
  let v := hexValue (s.charAt 1) * 16 + hexValue (s.charAt 2)
  skip; skip; skip
  return v

/-- The octets of one character written as `%` escapes, decoded as UTF-8. -/
def uriEscapes (directive : Bool) (start : Mark) : ScanM Char := do
  let first ← uriOctet directive start
  let width :=
    if first &&& 0x80 == 0 then 1 else if first &&& 0xE0 == 0xC0 then 2
    else if first &&& 0xF0 == 0xE0 then 3 else if first &&& 0xF8 == 0xF0 then 4 else 0
  if width == 0 then
    scanFault (tagContext directive) start "found an incorrect leading UTF-8 octet"
  let lead := if width == 1 then first else if width == 2 then first &&& 0x1F
    else if width == 3 then first &&& 0x0F else first &&& 0x07
  let rec more : Nat → Nat → ScanM Nat
    | 0, acc => return acc
    | k + 1, acc => do
      let o ← uriOctet directive start
      if o &&& 0xC0 != 0x80 then
        scanFault (tagContext directive) start "found an incorrect trailing UTF-8 octet"
      more k (acc * 64 + (o &&& 0x3F))
  let code ← more (width - 1) lead
  return Char.ofNat code

/-- The URI part of a tag; `head` is a handle that turned out to be part of it. -/
def tagUri (verbatim directive : Bool) (head : String) (start : Mark) : ScanM String := do
  let init := if head.length > 1 then (head.drop 1).toString else ""
  let rec loop : Nat → String → Bool → ScanM (String × Bool)
    | 0, acc, seen => return (acc, seen)
    | n + 1, acc, seen => do
      let c ← current
      if isTagChar c || (verbatim && (c == ',' || c == '[' || c == ']')) then
        if c == '%' then
          let ch ← uriEscapes directive start
          loop n (acc.push ch) true
        else
          let acc ← readChar acc
          loop n acc true
      else return (acc, seen)
  let (uri, seen) ← loop (← get).left init (!head.isEmpty)
  if !seen then scanFault (tagContext directive) start "did not find expected tag URI"
  return uri

/-- A tag: `!<uri>`, `!handle!suffix`, `!suffix` or `!` alone. -/
def scanTag : ScanM Token := do
  let start ← currentMark
  let s ← get
  let (handle, suffix) ←
    if s.charAt 1 == '<' then do
      skip; skip
      let suffix ← tagUri true false "" start
      if (← current) != '>' then
        scanFault "while scanning a tag" start "did not find the expected '>'"
      skip
      pure ("", suffix)
    else do
      let handle ← tagHandle false start
      if handle.front == '!' && handle.length > 1 && handle.back == '!' then
        let suffix ← tagUri false false "" start
        pure (handle, suffix)
      else
        let suffix ← tagUri false false handle start
        if suffix.isEmpty then pure ("", "!") else pure ("!", suffix)
  let c ← current
  if !isBlankOrEnd c then
    if (← get).flowLevel == 0 || c != ',' then
      scanFault "while scanning a tag" start "did not find expected whitespace or line break"
  let stop ← currentMark
  return { kind := .tag handle suffix, start, stop }

/-- Step over blanks. -/
def skipBlanks : Nat → ScanM Unit
  | 0 => return
  | n + 1 => do
    if isBlank (← current) then
      skip
      skipBlanks n

/-- The name of a directive after `%`. -/
def directiveName (start : Mark) : ScanM String := do
  let rec loop : Nat → String → ScanM String
    | 0, acc => return acc
    | n + 1, acc => do
      if isWordChar (← current) then
        let acc ← readChar acc
        loop n acc
      else return acc
  let name ← loop (← get).left ""
  if name.isEmpty then
    scanFault "while scanning a directive" start "could not find expected directive name"
  if !isBlankOrEnd (← current) then
    scanFault "while scanning a directive" start "found unexpected non-alphabetical character"
  return name

/-- A number of a version directive, at most nine digits. -/
def versionNumber (start : Mark) : ScanM Nat := do
  let rec loop : Nat → Nat → Nat → ScanM (Nat × Nat)
    | 0, v, len => return (v, len)
    | n + 1, v, len => do
      let c ← current
      if c.isDigit then
        if len + 1 > 9 then
          scanFault "while scanning a %YAML directive" start "found extremely long version number"
        skip
        loop n (v * 10 + (c.toNat - 48)) (len + 1)
      else return (v, len)
  let (v, len) ← loop (← get).left 0 0
  if len == 0 then
    scanFault "while scanning a %YAML directive" start "did not find expected version number"
  return v

/-- A `%YAML` or `%TAG` directive, through the end of its line. -/
def scanDirective : ScanM Token := do
  let start ← currentMark
  skip
  let name ← directiveName start
  let kind ←
    if name == "YAML" then do
      skipBlanks (← get).left
      let major ← versionNumber start
      if (← current) != '.' then
        scanFault "while scanning a %YAML directive" start
          "did not find expected digit or '.' character"
      skip
      let minor ← versionNumber start
      pure (TokenKind.versionDirective major minor)
    else if name == "TAG" then do
      skipBlanks (← get).left
      let handle ← tagHandle true start
      if !isBlank (← current) then
        scanFault "while scanning a %TAG directive" start "did not find expected whitespace"
      skipBlanks (← get).left
      let pfx ← tagUri true true "" start
      if !isBlankOrEnd (← current) then
        scanFault "while scanning a %TAG directive" start
          "did not find expected whitespace or line break"
      pure (TokenKind.tagDirective handle pfx)
    else
      scanFault "while scanning a directive" start "found unknown directive name"
  let stop ← currentMark
  skipBlanks (← get).left
  if (← current) == '#' then
    let rec comment : Nat → ScanM Unit
      | 0 => return
      | n + 1 => do
        if !isBreakOrEnd (← current) then
          skip
          comment n
    comment (← get).left
  if !isBreakOrEnd (← current) then
    scanFault "while scanning a directive" start "did not find expected comment or line break"
  if isBreak (← current) then skipLine
  return { kind, start, stop }

/-- The token at the start of the stream. -/
def fetchStreamStart : ScanM Unit := do
  let s ← get
  set { s with indent := -1, simpleKeys := s.simpleKeys.push {}, simpleKeyAllowed := true,
               started := true }
  enqueue { kind := .streamStart, start := s.mark, stop := s.mark }

/-- The token at the end of the stream, on a line of its own. -/
def fetchStreamEnd : ScanM Unit := do
  let s ← get
  if s.mark.column != 0 then
    set { s with mark := { s.mark with column := 0, line := s.mark.line + 1 } }
  let m ← currentMark
  unroll (-1) m
  removeSimpleKey
  modify fun s => { s with simpleKeyAllowed := false, ended := true }
  let m ← currentMark
  enqueue { kind := .streamEnd, start := m, stop := m }

/-- A directive token. -/
def fetchDirective : ScanM Unit := do
  unroll (-1) (← currentMark)
  removeSimpleKey
  modify fun s => { s with simpleKeyAllowed := false }
  let t ← scanDirective
  enqueue t

/-- A document start (`---`) or end (`...`) token. -/
def fetchDocumentIndicator (kind : TokenKind) : ScanM Unit := do
  unroll (-1) (← currentMark)
  removeSimpleKey
  modify fun s => { s with simpleKeyAllowed := false }
  let start ← currentMark
  skip; skip; skip
  let stop ← currentMark
  enqueue { kind, start, stop }

/-- A one-character indicator token. -/
def fetchIndicator (kind : TokenKind) : ScanM Unit := do
  let start ← currentMark
  skip
  let stop ← currentMark
  enqueue { kind, start, stop }

/-- `[` or `{`. -/
def fetchFlowCollectionStart (kind : TokenKind) : ScanM Unit := do
  saveSimpleKey
  increaseFlowLevel
  modify fun s => { s with simpleKeyAllowed := true }
  fetchIndicator kind

/-- `]` or `}`. -/
def fetchFlowCollectionEnd (kind : TokenKind) : ScanM Unit := do
  removeSimpleKey
  decreaseFlowLevel
  modify fun s => { s with simpleKeyAllowed := false }
  fetchIndicator kind

/-- `,` inside a flow collection. -/
def fetchFlowEntry : ScanM Unit := do
  removeSimpleKey
  modify fun s => { s with simpleKeyAllowed := true }
  fetchIndicator .flowEntry

/-- `-` starting a block sequence entry. -/
def fetchBlockEntry : ScanM Unit := do
  let s ← get
  if s.flowLevel == 0 then
    if !s.simpleKeyAllowed then
      scanFault "" s.mark "block sequence entries are not allowed in this context"
    rollIndent s.mark.column none .blockSequenceStart s.mark
  removeSimpleKey
  modify fun s => { s with simpleKeyAllowed := true }
  fetchIndicator .blockEntry

/-- `?` starting a complex key. -/
def fetchKey : ScanM Unit := do
  let s ← get
  if s.flowLevel == 0 then
    if !s.simpleKeyAllowed then
      scanFault "" s.mark "mapping keys are not allowed in this context"
    rollIndent s.mark.column none .blockMappingStart s.mark
  removeSimpleKey
  modify fun s => { s with simpleKeyAllowed := s.flowLevel == 0 }
  fetchIndicator .key

/-- `:` after a key: a simple key that is still possible becomes a key token put back at its
place, with a mapping start before it in block context. -/
def fetchValue : ScanM Unit := do
  let k ← lastSimpleKey
  let (valid, k) ← keyStillPossible k
  setLastSimpleKey k
  if valid then
    let s ← get
    enqueueAt (k.tokenNumber - s.taken) { kind := .key, start := k.mark, stop := k.mark }
    rollIndent k.mark.column (some k.tokenNumber) .blockMappingStart k.mark
    setLastSimpleKey { k with possible := false }
    forgetKeyNumber k.tokenNumber
    modify fun s => { s with simpleKeyAllowed := false }
  else
    let s ← get
    if s.flowLevel == 0 then
      if !s.simpleKeyAllowed then
        scanFault "" s.mark "mapping values are not allowed in this context"
      rollIndent s.mark.column none .blockMappingStart s.mark
    modify fun s => { s with simpleKeyAllowed := s.flowLevel == 0 }
  fetchIndicator .value

/-- A token that may start a simple key and after which none may start. -/
def fetchKeyable (scan : ScanM Token) : ScanM Unit := do
  saveSimpleKey
  modify fun s => { s with simpleKeyAllowed := false }
  let t ← scan
  enqueue t

/-- Whether a character may start a plain scalar, given the one after it. -/
def startsPlain (flowLevel : Nat) (c next : Char) : Bool :=
  !(isBlankOrEnd c || "-?:,[]\x7b\x7d#&*!|>'\"%@`".toList.contains c) ||
    (c == '-' && !isBlank next) ||
    (flowLevel == 0 && (c == '?' || c == ':') && !isBlankOrEnd next)

/-- Scan the next token into the queue. -/
def fetchNextToken : ScanM Unit := do
  let s ← get
  if !s.started then
    fetchStreamStart
    return
  let scanMark := s.mark
  skipToToken (← get).left
  unroll (← currentMark).column scanMark
  let s ← get
  let c := s.charAt 0
  let next := s.charAt 1
  if isEnd c then fetchStreamEnd
  else if s.mark.column == 0 && c == '%' then fetchDirective
  else if s.mark.column == 0 && c == '-' && next == '-' && s.charAt 2 == '-' &&
      isBlankOrEnd (s.charAt 3) then fetchDocumentIndicator .documentStart
  else if s.mark.column == 0 && c == '.' && next == '.' && s.charAt 2 == '.' &&
      isBlankOrEnd (s.charAt 3) then fetchDocumentIndicator .documentEnd
  else if c == '[' then fetchFlowCollectionStart .flowSequenceStart
  else if c == '{' then fetchFlowCollectionStart .flowMappingStart
  else if c == ']' then fetchFlowCollectionEnd .flowSequenceEnd
  else if c == '}' then fetchFlowCollectionEnd .flowMappingEnd
  else if c == ',' then fetchFlowEntry
  else if c == '-' && isBlankOrEnd next then fetchBlockEntry
  else if c == '?' && (s.flowLevel > 0 || isBlankOrEnd next) then fetchKey
  else if c == ':' && (s.flowLevel > 0 || isBlankOrEnd next) then fetchValue
  else if c == '*' then fetchKeyable (scanAnchor true)
  else if c == '&' then fetchKeyable (scanAnchor false)
  else if c == '!' then fetchKeyable scanTag
  else if c == '|' && s.flowLevel == 0 then
    removeSimpleKey
    modify fun s => { s with simpleKeyAllowed := true }
    let t ← scanBlockScalar true
    enqueue t
  else if c == '>' && s.flowLevel == 0 then
    removeSimpleKey
    modify fun s => { s with simpleKeyAllowed := true }
    let t ← scanBlockScalar false
    enqueue t
  else if c == '\'' then fetchKeyable (scanQuotedScalar true)
  else if c == '"' then fetchKeyable (scanQuotedScalar false)
  else if startsPlain s.flowLevel c next then fetchKeyable scanPlainScalar
  else scanFault "while scanning for the next token" s.mark "found character that cannot start any token"

/-- Whether the first waiting token may still turn into a key, so that more tokens must be
scanned before it is taken. -/
def headMayBeKey : ScanM Bool := do
  let s ← get
  match s.keysByToken.find? (·.1 == s.taken) with
  | none => return false
  | some (_, i) =>
    let k := s.simpleKeys.getD i {}
    let (valid, k) ← keyStillPossible k
    modify fun s => { s with simpleKeys := if i < s.simpleKeys.size then s.simpleKeys.set! i k
                                           else s.simpleKeys }
    return valid

/-- Scan until the queue holds three tokens and its first one can no longer become a key. -/
def fetchMoreTokens : Nat → ScanM Unit
  | 0 => return
  | n + 1 => do
    let s ← get
    if s.queue.length > 2 then
      if !(← headMayBeKey) then return
    fetchNextToken
    fetchMoreTokens n

/-- The first waiting token, scanning more text as needed. -/
def peekToken : ScanM Token := do
  let s ← get
  fetchMoreTokens (4 * s.left + 16)
  match (← get).queue with
  | t :: _ => return t
  | [] => scanFault "" (← currentMark) "unknown problem parsing YAML content"

/-- Take the first waiting token. -/
def skipToken : ScanM Unit :=
  modify fun s => { s with queue := s.queue.drop 1, taken := s.taken + 1 }

end Conform.Yaml
