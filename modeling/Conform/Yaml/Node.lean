import Conform.Yaml.Parser
/-!
YAML documents as trees of nodes, composed from events. A node is a scalar, a sequence, a
mapping or an alias of an anchored node; every node keeps its tag and the line and column
(from one) where it begins. Only the first document of a stream is composed, as a loader of
one document reads it; a stream with no document gives no node.
-/

namespace Conform.Yaml

/-- The short form of a tag: the standard prefix becomes `!!`. -/
def shortTag (tag : String) : String :=
  if tag.startsWith "tag:yaml.org,2002:" then "!!" ++ (tag.drop 18).toString else tag

/-- A node of a YAML document. -/
inductive Node where
  /-- A scalar: its tag as written (empty when none), its text, how it was written, and
  where it begins. -/
  | scalar (tag value : String) (style : ScalarStyle) (line column : Nat)
  | sequence (tag : String) (items : List Node) (line column : Nat)
  | mapping (tag : String) (pairs : List (Node × Node)) (line column : Nat)
  /-- An alias: the anchor's name and its node, or none when the alias stands inside the
  node it names. -/
  | alias (name : String) (target : Option Node) (line column : Nat)
  deriving Inhabited, Repr

namespace Node

/-- The line where a node begins, from one. -/
def line : Node → Nat
  | .scalar _ _ _ l _ => l
  | .sequence _ _ l _ => l
  | .mapping _ _ l _ => l
  | .alias _ _ l _ => l

/-- The text of a scalar and the name of an alias; empty for collections. -/
def value : Node → String
  | .scalar _ v _ _ _ => v
  | .alias n _ _ _ => n
  | _ => ""

/-- Which of the four kinds a node is, as a number, for comparing keys. -/
def kindCode : Node → Nat
  | .scalar .. => 0
  | .sequence .. => 1
  | .mapping .. => 2
  | .alias .. => 3

end Node

/-- The composer: the parser under it, one event read ahead, and the anchors seen so far
with their nodes (none while the anchored node is still open). -/
structure Composer where
  parser : Parser
  pending : Option Event := none
  anchors : List (String × Option Node) := []
  deriving Inhabited

/-- Composing steps. -/
abbrev ComposeM := StateT Composer (Except Fault)

/-- Run a parsing step on the composer's parser. -/
def parse (m : ParseM α) : ComposeM α := do
  let c ← get
  match m.run c.parser with
  | .ok (a, p) =>
    set { c with parser := p }
    return a
  | .error e => throw e

/-- Stop at a fault met while composing. -/
def composeFault (problem : String) : ComposeM α :=
  throw { stage := .composer, problem }

/-- The next event, without taking it. -/
def peekEvent : ComposeM Event := do
  match (← get).pending with
  | some e => return e
  | none =>
    let e ← parse nextEvent
    modify fun c => { c with pending := some e }
    return e

/-- Take the next event. -/
def takeEvent : ComposeM Event := do
  let e ← peekEvent
  modify fun c => { c with pending := none }
  return e

/-- Record an anchor, with its node once that is complete. -/
def recordAnchor (name : String) (node : Option Node) : ComposeM Unit := do
  if name.isEmpty then return
  modify fun c => { c with anchors := (name, node) :: c.anchors.filter (·.1 != name) }

/-- Whether an event ends a sequence. -/
def EventKind.isSequenceEnd : EventKind → Bool | .sequenceEnd => true | _ => false

/-- Whether an event ends a mapping. -/
def EventKind.isMappingEnd : EventKind → Bool | .mappingEnd => true | _ => false

mutual

/-- The node that starts with the next event. -/
def composeNode : Nat → ComposeM Node
  | 0 => composeFault "exceeded max depth"
  | fuel + 1 => do
    let e ← takeEvent
    let line := e.start.line + 1
    let column := e.start.column + 1
    match e.kind with
    | .scalar anchor tag value _ _ style =>
      let n := Node.scalar (if tag == "!" then "" else shortTag tag) value style line column
      recordAnchor anchor (some n)
      return n
    | .alias name =>
      match (← get).anchors.find? (·.1 == name) with
      | some (_, target) => return .alias name target line column
      | none => composeFault ("unknown anchor '" ++ name ++ "' referenced")
    | .sequenceStart anchor tag _ _ =>
      recordAnchor anchor none
      let items ← composeItems fuel []
      let n := Node.sequence (if tag == "!" then "" else shortTag tag) items line column
      recordAnchor anchor (some n)
      return n
    | .mappingStart anchor tag _ _ =>
      recordAnchor anchor none
      let pairs ← composePairs fuel []
      let n := Node.mapping (if tag == "!" then "" else shortTag tag) pairs line column
      recordAnchor anchor (some n)
      return n
    | _ => composeFault "attempted to go past the end of stream; corrupted value?"

/-- The items of a sequence up to its end, after `acc` read in reverse. -/
def composeItems : Nat → List Node → ComposeM (List Node)
  | 0, acc => return acc.reverse
  | fuel + 1, acc => do
    let e ← peekEvent
    if e.kind.isSequenceEnd then
      let _ ← takeEvent
      return acc.reverse
    let n ← composeNode fuel
    composeItems fuel (n :: acc)

/-- The pairs of a mapping up to its end, after `acc` read in reverse. -/
def composePairs : Nat → List (Node × Node) → ComposeM (List (Node × Node))
  | 0, acc => return acc.reverse
  | fuel + 1, acc => do
    let e ← peekEvent
    if e.kind.isMappingEnd then
      let _ ← takeEvent
      return acc.reverse
    let k ← composeNode fuel
    let v ← composeNode fuel
    composePairs fuel ((k, v) :: acc)

end

/-- The node of the first document of a text, or none when the text holds no document. -/
def composeFirst : ComposeM (Option Node) := do
  let fuel := (← get).parser.scanner.text.size * 2 + 8
  let e ← takeEvent
  match e.kind with
  | .streamStart => pure ()
  | _ => composeFault "expected STREAM-START"
  let e ← peekEvent
  match e.kind with
  | .streamEnd => return none
  | .documentStart _ =>
    let _ ← takeEvent
    let n ← composeNode fuel
    let e ← takeEvent
    match e.kind with
    | .documentEnd _ => return some n
    | _ => composeFault "expected DOCUMENT-END"
  | _ => some <$> composeNode fuel

/-- The characters YAML text may hold: tab, line feed, carriage return, printable ASCII, next
line, and the rest of Unicode but for surrogates and U+FFFE and U+FFFF. -/
def allowedChar (c : Char) : Bool :=
  let n := c.toNat
  n == 0x09 || n == 0x0A || n == 0x0D || (0x20 ≤ n && n ≤ 0x7E) || n == 0x85 ||
    (0xA0 ≤ n && n ≤ 0xD7FF) || (0xE000 ≤ n && n ≤ 0xFFFD) || (0x10000 ≤ n && n ≤ 0x10FFFF)

/-- The node of the first document of a YAML text; a byte-order mark at the start is skipped. -/
def readDocument (text : String) : Except Fault (Option Node) :=
  let chars := text.toList
  let chars := match chars with
    | '\uFEFF' :: rest => rest
    | cs => cs
  if !chars.all allowedChar then
    .error { stage := .reader, problem := "control characters are not allowed" }
  else
    let c : Composer := { parser := { scanner := Scanner.ofText chars.toArray } }
    (composeFirst.run c).map (·.1)

end Conform.Yaml
