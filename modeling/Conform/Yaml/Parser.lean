import Conform.Yaml.Scanner.Fetch
/-!
Turning YAML tokens into events: the start and end of the stream, of documents, of
sequences and of mappings, scalars and aliases. The parser is a state machine with a stack of
states to return to and a stack of marks where the open collections began; a fault names the
collection or node being read and where it began.
-/

namespace Conform.Yaml

/-- What an event is. -/
inductive EventKind where
  | streamStart
  | streamEnd
  | documentStart (implicit : Bool)
  | documentEnd (implicit : Bool)
  | alias (anchor : String)
  | scalar (anchor tag value : String) (plainImplicit quotedImplicit : Bool) (style : ScalarStyle)
  | sequenceStart (anchor tag : String) (implicit flow : Bool)
  | sequenceEnd
  | mappingStart (anchor tag : String) (implicit flow : Bool)
  | mappingEnd
  deriving Repr, Inhabited

/-- An event and where it begins and ends. -/
structure Event where
  kind : EventKind
  start : Mark
  stop : Mark
  deriving Repr, Inhabited

/-- Where the parser stands in the grammar. -/
inductive ParseState where
  | streamStart
  | implicitDocumentStart
  | documentStart
  | documentContent
  | documentEnd
  | blockNode
  | blockNodeOrIndentlessSequence
  | flowNode
  | blockSequenceFirstEntry
  | blockSequenceEntry
  | indentlessSequenceEntry
  | blockMappingFirstKey
  | blockMappingKey
  | blockMappingValue
  | flowSequenceFirstEntry
  | flowSequenceEntry
  | flowSequenceEntryMappingKey
  | flowSequenceEntryMappingValue
  | flowSequenceEntryMappingEnd
  | flowMappingFirstKey
  | flowMappingKey
  | flowMappingValue
  | flowMappingEmptyValue
  | finished
  deriving Repr, Inhabited, DecidableEq

/-- The parser: the scanner under it, its state, the states to return to, the marks where the
open collections began and the tag handles in force. -/
structure Parser where
  scanner : Scanner
  state : ParseState := .streamStart
  states : List ParseState := []
  marks : List Mark := []
  tagDirectives : List (String × String) := []
  deriving Inhabited

/-- Parsing steps. -/
abbrev ParseM := StateT Parser (Except Fault)

/-- Run a scanning step on the parser's scanner. -/
def scan (m : ScanM α) : ParseM α := do
  let p ← get
  match m.run p.scanner with
  | .ok (a, s) =>
    set { p with scanner := s }
    return a
  | .error e => throw e

/-- The next token. -/
def nextToken : ParseM Token := scan peekToken

/-- Take the next token. -/
def takeToken : ParseM Unit := scan skipToken

/-- Stop at a fault with no context. -/
def parseFault (problem : String) (problemMark : Mark) : ParseM α :=
  throw { stage := .parser, problem, problemMark }

/-- Stop at a fault inside a construct that began at `contextMark`. -/
def parseFaultIn (context : String) (contextMark : Mark) (problem : String) (problemMark : Mark) :
    ParseM α :=
  throw { stage := .parser, context, contextMark, problem, problemMark }

/-- Return to the state on top of the stack. -/
def popState : ParseM Unit :=
  modify fun p => match p.states with
    | s :: rest => { p with state := s, states := rest }
    | [] => { p with state := .finished }

/-- Save a state to return to. -/
def pushState (s : ParseState) : ParseM Unit :=
  modify fun p => { p with states := s :: p.states }

/-- Set the state. -/
def goto (s : ParseState) : ParseM Unit :=
  modify fun p => { p with state := s }

/-- Remember where a collection began. -/
def pushMark (m : Mark) : ParseM Unit :=
  modify fun p => { p with marks := m :: p.marks }

/-- Forget where the innermost collection began, giving that place. -/
def popMark : ParseM Mark := do
  let p ← get
  match p.marks with
  | m :: rest =>
    set { p with marks := rest }
    return m
  | [] => return {}

/-- An empty plain scalar at a mark. -/
def emptyScalar (m : Mark) : Event :=
  { kind := .scalar "" "" "" true false .plain, start := m, stop := m }

/-- The handles every document knows. -/
def defaultTagDirectives : List (String × String) :=
  [("!", "!"), ("!!", "tag:yaml.org,2002:")]

/-- Add a tag handle; a handle given twice in one document is a fault unless `quiet`. -/
def addTagDirective (handle pfx : String) (quiet : Bool) (m : Mark) : ParseM Unit := do
  let p ← get
  if p.tagDirectives.any (·.1 == handle) then
    if quiet then return
    parseFault "found duplicate %TAG directive" m
  set { p with tagDirectives := p.tagDirectives ++ [(handle, pfx)] }

/-- Read the directives before a document. -/
def processDirectives : Nat → Bool → ParseM Unit
  | 0, _ => return
  | n + 1, seenVersion => do
    let t ← nextToken
    match t.kind with
    | .versionDirective major minor =>
      if seenVersion then parseFault "found duplicate %YAML directive" t.start
      if major != 1 || (minor != 1 && minor != 2) then
        parseFault "found incompatible YAML document" t.start
      takeToken
      processDirectives n true
    | .tagDirective handle pfx =>
      addTagDirective handle pfx false t.start
      takeToken
      processDirectives n seenVersion
    | _ =>
      for (h, q) in defaultTagDirectives do
        addTagDirective h q true t.start

/-- Whether a token is of a kind. -/
def TokenKind.isStreamEnd : TokenKind → Bool | .streamEnd => true | _ => false
def TokenKind.isDocumentStart : TokenKind → Bool | .documentStart => true | _ => false
def TokenKind.isDocumentEnd : TokenKind → Bool | .documentEnd => true | _ => false
def TokenKind.isDirective : TokenKind → Bool
  | .versionDirective .. => true | .tagDirective .. => true | _ => false
def TokenKind.isBlockEntry : TokenKind → Bool | .blockEntry => true | _ => false
def TokenKind.isBlockEnd : TokenKind → Bool | .blockEnd => true | _ => false
def TokenKind.isKey : TokenKind → Bool | .key => true | _ => false
def TokenKind.isValue : TokenKind → Bool | .value => true | _ => false
def TokenKind.isFlowEntry : TokenKind → Bool | .flowEntry => true | _ => false
def TokenKind.isFlowSequenceEnd : TokenKind → Bool | .flowSequenceEnd => true | _ => false
def TokenKind.isFlowMappingEnd : TokenKind → Bool | .flowMappingEnd => true | _ => false

/-- The start of a document, or the end of the stream. -/
def parseDocumentStart (implicit : Bool) : ParseM Event := do
  let mut t ← nextToken
  if !implicit then
    let rec skipEnds : Nat → ParseM Token
      | 0 => nextToken
      | n + 1 => do
        let t ← nextToken
        if t.kind.isDocumentEnd then
          takeToken
          skipEnds n
        else return t
    t ← skipEnds ((← get).scanner.left + 4)
  if implicit && !t.kind.isDirective && !t.kind.isDocumentStart && !t.kind.isStreamEnd then
    processDirectives ((← get).scanner.left + 4) false
    pushState .documentEnd
    goto .blockNode
    return { kind := .documentStart true, start := t.start, stop := t.stop }
  else if !t.kind.isStreamEnd then
    let start := t.start
    processDirectives ((← get).scanner.left + 4) false
    let d ← nextToken
    if !d.kind.isDocumentStart then
      parseFault "did not find expected <document start>" d.start
    pushState .documentEnd
    goto .documentContent
    takeToken
    return { kind := .documentStart false, start, stop := d.stop }
  else
    goto .finished
    takeToken
    return { kind := .streamEnd, start := t.start, stop := t.stop }

/-- A node, or a sequence without indentation inside a block mapping. -/
def parseNode (block indentless : Bool) : ParseM Event := do
  let t ← nextToken
  if let .alias name := t.kind then
    popState
    takeToken
    return { kind := .alias name, start := t.start, stop := t.stop }
  let mut start := t.start
  let mut stop := t.start
  let mut anchor := ""
  let mut tagged := false
  let mut handle := ""
  let mut suffix := ""
  let mut tagMark : Mark := {}
  let mut t := t
  match t.kind with
  | .anchor name =>
    anchor := name
    stop := t.stop
    takeToken
    t ← nextToken
    if let .tag h s := t.kind then
      tagged := true
      handle := h
      suffix := s
      tagMark := t.start
      stop := t.stop
      takeToken
      t ← nextToken
  | .tag h s =>
    tagged := true
    handle := h
    suffix := s
    tagMark := t.start
    stop := t.stop
    takeToken
    t ← nextToken
    if let .anchor name := t.kind then
      anchor := name
      stop := t.stop
      takeToken
      t ← nextToken
  | _ => pure ()
  let mut tag := ""
  if tagged then
    if handle.isEmpty then tag := suffix
    else
      match (← get).tagDirectives.find? (·.1 == handle) with
      | some (_, pfx) => tag := pfx ++ suffix
      | none => parseFaultIn "while parsing a node" start "found undefined tag handle" tagMark
  let implicit := tag.isEmpty
  if indentless && t.kind.isBlockEntry then
    goto .indentlessSequenceEntry
    return { kind := .sequenceStart anchor tag implicit false, start, stop := t.stop }
  match t.kind with
  | .scalar value style =>
    let plainImplicit := (tag.isEmpty && style == .plain) || tag == "!"
    let quotedImplicit := !plainImplicit && tag.isEmpty
    popState
    takeToken
    return { kind := .scalar anchor tag value plainImplicit quotedImplicit style, start, stop := t.stop }
  | .flowSequenceStart =>
    goto .flowSequenceFirstEntry
    return { kind := .sequenceStart anchor tag implicit true, start, stop := t.stop }
  | .flowMappingStart =>
    goto .flowMappingFirstKey
    return { kind := .mappingStart anchor tag implicit true, start, stop := t.stop }
  | .blockSequenceStart =>
    if block then
      goto .blockSequenceFirstEntry
      return { kind := .sequenceStart anchor tag implicit false, start, stop := t.stop }
  | .blockMappingStart =>
    if block then
      goto .blockMappingFirstKey
      return { kind := .mappingStart anchor tag implicit false, start, stop := t.stop }
  | _ => pure ()
  if !anchor.isEmpty || !tag.isEmpty then
    popState
    return { kind := .scalar anchor tag "" implicit false .plain, start, stop }
  parseFaultIn (if block then "while parsing a block node" else "while parsing a flow node") start
    "did not find expected node content" t.start

/-- An entry of a block sequence, or its end. -/
def parseBlockSequenceEntry (first : Bool) : ParseM Event := do
  if first then
    let t ← nextToken
    pushMark t.start
    takeToken
  let t ← nextToken
  if t.kind.isBlockEntry then
    let m := t.stop
    takeToken
    let t ← nextToken
    if !t.kind.isBlockEntry && !t.kind.isBlockEnd then
      pushState .blockSequenceEntry
      parseNode true false
    else
      goto .blockSequenceEntry
      return emptyScalar m
  else if t.kind.isBlockEnd then
    popState
    let _ ← popMark
    takeToken
    return { kind := .sequenceEnd, start := t.start, stop := t.stop }
  else
    let m ← popMark
    parseFaultIn "while parsing a block collection" m "did not find expected '-' indicator" t.start

/-- An entry of a sequence written without indentation, or its end. -/
def parseIndentlessSequenceEntry : ParseM Event := do
  let t ← nextToken
  if t.kind.isBlockEntry then
    let m := t.stop
    takeToken
    let t ← nextToken
    if !t.kind.isBlockEntry && !t.kind.isKey && !t.kind.isValue && !t.kind.isBlockEnd then
      pushState .indentlessSequenceEntry
      parseNode true false
    else
      goto .indentlessSequenceEntry
      return emptyScalar m
  else
    popState
    return { kind := .sequenceEnd, start := t.start, stop := t.start }

/-- A key of a block mapping, or its end. -/
def parseBlockMappingKey (first : Bool) : ParseM Event := do
  if first then
    let t ← nextToken
    pushMark t.start
    takeToken
  let t ← nextToken
  if t.kind.isKey then
    let m := t.stop
    takeToken
    let t ← nextToken
    if !t.kind.isKey && !t.kind.isValue && !t.kind.isBlockEnd then
      pushState .blockMappingValue
      parseNode true true
    else
      goto .blockMappingValue
      return emptyScalar m
  else if t.kind.isBlockEnd then
    popState
    let _ ← popMark
    takeToken
    return { kind := .mappingEnd, start := t.start, stop := t.stop }
  else
    let m ← popMark
    parseFaultIn "while parsing a block mapping" m "did not find expected key" t.start

/-- A value of a block mapping, empty when none is written. -/
def parseBlockMappingValue : ParseM Event := do
  let t ← nextToken
  if t.kind.isValue then
    let m := t.stop
    takeToken
    let t ← nextToken
    if !t.kind.isKey && !t.kind.isValue && !t.kind.isBlockEnd then
      pushState .blockMappingKey
      parseNode true true
    else
      goto .blockMappingKey
      return emptyScalar m
  else
    goto .blockMappingKey
    return emptyScalar t.start

/-- An entry of a flow sequence, or its end. -/
def parseFlowSequenceEntry (first : Bool) : ParseM Event := do
  if first then
    let t ← nextToken
    pushMark t.start
    takeToken
  let mut t ← nextToken
  if !t.kind.isFlowSequenceEnd then
    if !first then
      if t.kind.isFlowEntry then
        takeToken
        t ← nextToken
      else
        let m ← popMark
        parseFaultIn "while parsing a flow sequence" m "did not find expected ',' or ']'" t.start
    if t.kind.isKey then
      goto .flowSequenceEntryMappingKey
      takeToken
      return { kind := .mappingStart "" "" true true, start := t.start, stop := t.stop }
    else if !t.kind.isFlowSequenceEnd then
      pushState .flowSequenceEntry
      return (← parseNode false false)
  popState
  let _ ← popMark
  takeToken
  return { kind := .sequenceEnd, start := t.start, stop := t.stop }

/-- The key of a one-pair mapping inside a flow sequence. -/
def parseFlowSequenceEntryMappingKey : ParseM Event := do
  let t ← nextToken
  if !t.kind.isValue && !t.kind.isFlowEntry && !t.kind.isFlowSequenceEnd then
    pushState .flowSequenceEntryMappingValue
    parseNode false false
  else
    let m := t.stop
    takeToken
    goto .flowSequenceEntryMappingValue
    return emptyScalar m

/-- The value of a one-pair mapping inside a flow sequence. -/
def parseFlowSequenceEntryMappingValue : ParseM Event := do
  let t ← nextToken
  if t.kind.isValue then
    takeToken
    let t ← nextToken
    if !t.kind.isFlowEntry && !t.kind.isFlowSequenceEnd then
      pushState .flowSequenceEntryMappingEnd
      return (← parseNode false false)
    goto .flowSequenceEntryMappingEnd
    return emptyScalar t.start
  goto .flowSequenceEntryMappingEnd
  return emptyScalar t.start

/-- The end of a one-pair mapping inside a flow sequence. -/
def parseFlowSequenceEntryMappingEnd : ParseM Event := do
  let t ← nextToken
  goto .flowSequenceEntry
  return { kind := .mappingEnd, start := t.start, stop := t.start }

/-- A key of a flow mapping, or its end. -/
def parseFlowMappingKey (first : Bool) : ParseM Event := do
  if first then
    let t ← nextToken
    pushMark t.start
    takeToken
  let mut t ← nextToken
  if !t.kind.isFlowMappingEnd then
    if !first then
      if t.kind.isFlowEntry then
        takeToken
        t ← nextToken
      else
        let m ← popMark
        parseFaultIn "while parsing a flow mapping" m "did not find expected ',' or '\x7d'" t.start
    if t.kind.isKey then
      takeToken
      let k ← nextToken
      if !k.kind.isValue && !k.kind.isFlowEntry && !k.kind.isFlowMappingEnd then
        pushState .flowMappingValue
        return (← parseNode false false)
      goto .flowMappingValue
      return emptyScalar k.start
    else if !t.kind.isFlowMappingEnd then
      pushState .flowMappingEmptyValue
      return (← parseNode false false)
  popState
  let _ ← popMark
  takeToken
  return { kind := .mappingEnd, start := t.start, stop := t.stop }

/-- A value of a flow mapping, empty when none is written. -/
def parseFlowMappingValue (empty : Bool) : ParseM Event := do
  let t ← nextToken
  if empty then
    goto .flowMappingKey
    return emptyScalar t.start
  if t.kind.isValue then
    takeToken
    let t ← nextToken
    if !t.kind.isFlowEntry && !t.kind.isFlowMappingEnd then
      pushState .flowMappingKey
      return (← parseNode false false)
    goto .flowMappingKey
    return emptyScalar t.start
  goto .flowMappingKey
  return emptyScalar t.start

/-- The next event. -/
def nextEvent : ParseM Event := do
  match (← get).state with
  | .streamStart =>
    let t ← nextToken
    match t.kind with
    | .streamStart =>
      goto .implicitDocumentStart
      takeToken
      return { kind := .streamStart, start := t.start, stop := t.stop }
    | _ => parseFault "did not find expected <stream-start>" t.start
  | .implicitDocumentStart => parseDocumentStart true
  | .documentStart => parseDocumentStart false
  | .documentContent =>
    let t ← nextToken
    if t.kind.isDirective || t.kind.isDocumentStart || t.kind.isDocumentEnd || t.kind.isStreamEnd then
      popState
      return emptyScalar t.start
    parseNode true false
  | .documentEnd =>
    let t ← nextToken
    let start := t.start
    let mut stop := t.start
    let mut implicit := true
    if t.kind.isDocumentEnd then
      stop := t.stop
      takeToken
      implicit := false
    modify fun p => { p with tagDirectives := [] }
    goto .documentStart
    return { kind := .documentEnd implicit, start, stop }
  | .blockNode => parseNode true false
  | .blockNodeOrIndentlessSequence => parseNode true true
  | .flowNode => parseNode false false
  | .blockSequenceFirstEntry => parseBlockSequenceEntry true
  | .blockSequenceEntry => parseBlockSequenceEntry false
  | .indentlessSequenceEntry => parseIndentlessSequenceEntry
  | .blockMappingFirstKey => parseBlockMappingKey true
  | .blockMappingKey => parseBlockMappingKey false
  | .blockMappingValue => parseBlockMappingValue
  | .flowSequenceFirstEntry => parseFlowSequenceEntry true
  | .flowSequenceEntry => parseFlowSequenceEntry false
  | .flowSequenceEntryMappingKey => parseFlowSequenceEntryMappingKey
  | .flowSequenceEntryMappingValue => parseFlowSequenceEntryMappingValue
  | .flowSequenceEntryMappingEnd => parseFlowSequenceEntryMappingEnd
  | .flowMappingFirstKey => parseFlowMappingKey true
  | .flowMappingKey => parseFlowMappingKey false
  | .flowMappingValue => parseFlowMappingValue false
  | .flowMappingEmptyValue => parseFlowMappingValue true
  | .finished => parseFault "" {}

end Conform.Yaml
