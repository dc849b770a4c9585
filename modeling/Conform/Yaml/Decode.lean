import Conform.Yaml.Resolve
import Conform.Text.Utf8
/-!
Decoding YAML nodes into typed targets. Decoding goes on past a node that does not fit its
target and records a problem with the node's line; a value that cannot be decoded at all, such
as a scalar that does not fit its own tag, stops it. A null leaves a text, number, flag or record
target unset. Mappings may not repeat a key, and `<<` merges the pairs of other mappings into
one, the mapping's own keys winning.
-/

namespace Conform.Yaml

/-- A node that did not fit its target, and where. -/
structure Problem where
  line : Nat
  message : String
  deriving Repr, Inhabited

/-- Decoding steps: problems pile up, a failure stops. -/
abbrev DecodeM := StateT (Array Problem) (Except String)

/-- Record a problem at a line. -/
def problemAt (line : Nat) (message : String) : DecodeM Unit :=
  modify (·.push { line, message })

/-- Stop decoding. -/
def decodeFailure (message : String) : DecodeM α := throw message

/-- The first `n` bytes of a text's UTF-8 form; a character cut in two leaves one replacement
character for each of its bytes that is kept. -/
def bytePrefix (s : String) (n : Nat) : String :=
  let rec go (used : Nat) : List Char → List Char
    | [] => []
    | c :: rest =>
      let size := c.utf8Size
      if used + size ≤ n then c :: go (used + size) rest
      else List.replicate (n - used) '\uFFFD'
  String.ofList (go 0 s.toList)

/-- Record that a node does not fit a target type: its tag, a short form of a scalar's text, and
the type. -/
def mismatch (n : Node) (tag : String) (target : String) : DecodeM Unit :=
  let tag := if n.tag != "" then n.tag else tag
  let value := n.value
  let shown :=
    if tag == "!!seq" || tag == "!!map" then ""
    else if value.utf8ByteSize > 10 then " `" ++ bytePrefix value 7 ++ "...`"
    else " `" ++ value ++ "`"
  problemAt n.line ("cannot unmarshal " ++ shortTag tag ++ shown ++ " into " ++ target)

/-- The value of one base-64 digit. -/
def base64Digit (c : Char) : Option Nat :=
  if 'A' ≤ c && c ≤ 'Z' then some (c.toNat - 'A'.toNat)
  else if 'a' ≤ c && c ≤ 'z' then some (c.toNat - 'a'.toNat + 26)
  else if '0' ≤ c && c ≤ '9' then some (c.toNat - '0'.toNat + 52)
  else if c == '+' then some 62
  else if c == '/' then some 63
  else none

/-- Decode padded base-64 text, line breaks ignored, into bytes. -/
def base64Bytes (text : String) : Option (List UInt8) :=
  let cs := text.toList.filter (fun c => c != '\n' && c != '\r')
  let rec go : List Char → Option (List UInt8)
    | [] => some []
    | [a, b, '=', '='] => do
      let a ← base64Digit a
      let b ← base64Digit b
      pure [(a * 4 + b / 16).toUInt8]
    | [a, b, c, '='] => do
      let a ← base64Digit a
      let b ← base64Digit b
      let c ← base64Digit c
      pure [(a * 4 + b / 16).toUInt8, ((b % 16) * 16 + c / 4).toUInt8]
    | a :: b :: c :: d :: rest => do
      let a ← base64Digit a
      let b ← base64Digit b
      let c ← base64Digit c
      let d ← base64Digit d
      let tail ← go rest
      pure ((a * 4 + b / 16).toUInt8 :: ((b % 16) * 16 + c / 4).toUInt8 ::
        ((c % 4) * 64 + d).toUInt8 :: tail)
    | _ => none
  go cs

/-- The tag and value of a scalar node: a string for a node that reads as one, else its value
resolved under its tag; a node tagged null is null, and binary data is decoded. -/
def Node.scalarValue (n : Node) : DecodeM (String × ScalarValue) := do
  if n.isString then return ("!!str", .text n.value)
  if n.tag == "!!null" then return ("!!null", .null)
  match resolve n.tag n.value with
  | .error e => decodeFailure e
  | .ok (tag, v) =>
    if tag == "!!binary" then
      match base64Bytes n.value with
      | some bytes => return (tag, .text (Text.utf8Lossy bytes))
      | none => decodeFailure "!!binary value contains invalid base64 data"
    else return (tag, v)

/-- Look through an alias to its node; an alias inside the node it names cannot be decoded. -/
def Node.followAlias : Node → DecodeM Node
  | .alias name none _ _ => decodeFailure ("anchor '" ++ name ++ "' value contains itself")
  | .alias _ (some target) _ _ => pure target
  | n => pure n

/-- Whether a node is null, looking through an alias. -/
def Node.isNull (n : Node) : Bool := n.shortTag == "!!null"

/-- Record the problems of a mapping that repeats keys: a key of the same kind and text as an
earlier one. True when there were none. -/
def uniqueKeys (pairs : List (Node × Node)) : DecodeM Bool := do
  let keys := pairs.map (·.1)
  let mut ok := true
  let mut seen : List Node := []
  for k in keys do
    for earlier in seen.reverse do
      if earlier.kindCode == k.kindCode && earlier.value == k.value then
        problemAt k.line ("mapping key " ++ Conform.Text.quote k.value ++
          " already defined at line " ++ toString earlier.line)
        ok := false
    seen := k :: seen
  return ok

/-- Decode a node into text: any scalar gives its text as written (binary data decoded); a
null leaves it unset. -/
def decodeText (n : Node) : DecodeM (Option String) := do
  let n ← n.followAlias
  match n with
  | .scalar .. =>
    let (tag, v) ← n.scalarValue
    match v with
    | .null => return none
    | .text s => return some (if tag == "!!binary" then s else n.value)
    | _ => return some n.value
  | .sequence .. => mismatch n "!!seq" "string"; return none
  | .mapping .. =>
    let _ ← uniqueKeys (match n with | .mapping _ ps _ _ => ps | _ => [])
    mismatch n "!!map" "string"; return none
  | .alias .. => return none

/-- The whole number a float stands for when converted to a 64-bit integer by truncation; out of
range, it is the least 64-bit integer. -/
def truncateToInt64 (x : Float) : Int :=
  match (Conform.Number.valueOf x) with
  | v@(.finite negative m q _) =>
    let whole : Int :=
      match v.toRational? with
      | some (_, num, den) => (num / den : Nat)
      | none => 0
    let whole := if negative then -whole else whole
    let _ := m
    let _ := q
    if whole < -Int.pow 2 63 || whole ≥ Int.pow 2 63 then -Int.pow 2 63 else whole
  | _ => -Int.pow 2 63

/-- Decode a node into a 64-bit whole number: whole numbers that fit, and floats not above
`2^63`, truncated. -/
def decodeInt (n : Node) : DecodeM (Option Int) := do
  let n ← n.followAlias
  match n with
  | .scalar .. =>
    let (tag, v) ← n.scalarValue
    match v with
    | .null => return none
    | .int i => return some i
    | .float x =>
      if x ≤ 9223372036854775807.0 then return some (truncateToInt64 x)
      else mismatch n tag "int"; return none
    | _ => mismatch n tag "int"; return none
  | .sequence .. => mismatch n "!!seq" "int"; return none
  | .mapping _ ps _ _ =>
    if ← uniqueKeys ps then mismatch n "!!map" "int"
    return none
  | .alias .. => return none

/-- Decode a node into a flag: the booleans, and the words yes, on, y and no, off, n. -/
def decodeFlag (n : Node) : DecodeM (Option Bool) := do
  let n ← n.followAlias
  match n with
  | .scalar .. =>
    let (tag, v) ← n.scalarValue
    match v with
    | .null => return none
    | .bool b => return some b
    | .text s =>
      if ["y", "Y", "yes", "Yes", "YES", "on", "On", "ON"].contains s then return some true
      else if ["n", "N", "no", "No", "NO", "off", "Off", "OFF"].contains s then return some false
      else mismatch n tag "bool"; return none
    | _ => mismatch n tag "bool"; return none
  | .sequence .. => mismatch n "!!seq" "bool"; return none
  | .mapping _ ps _ _ =>
    if ← uniqueKeys ps then mismatch n "!!map" "bool"
    return none
  | .alias .. => return none

/-- A value decoded with no target type in mind. -/
inductive Loose where
  | scalar (v : ScalarValue)
  | list (items : List Loose)
  | map (pairs : List (Loose × Loose))
  deriving Inhabited

/-- Whether a mapping's merge value is a mapping or a list of mappings. -/
def mergeSources (v : Node) : DecodeM (List Node) := do
  let wantMap : DecodeM (List Node) :=
    decodeFailure "map merge requires map or sequence of maps as the value"
  match v with
  | .mapping .. => return [v]
  | .alias _ target _ _ =>
    match target with
    | some (.mapping ..) | none => return [v]
    | _ => wantMap
  | .sequence _ items _ _ =>
    for i in items do
      match i with
      | .mapping .. => pure ()
      | .alias _ (some (.mapping ..)) _ _ | .alias _ none _ _ => pure ()
      | _ => let _ ← wantMap
    return items
  | _ => wantMap

/-- Decode a node with no target type: scalars by their resolved values, sequences as lists
(nulls kept), mappings as pairs with merges applied. -/
def decodeLoose : Nat → Node → DecodeM (Option Loose)
  | 0, _ => decodeFailure "exceeded max depth"
  | fuel + 1, n => do
    let n ← n.followAlias
    match n with
    | .scalar .. =>
      let (_, v) ← n.scalarValue
      return some (.scalar v)
    | .sequence _ items _ _ =>
      let mut out : Array Loose := #[]
      for i in items do
        if let some v ← decodeLoose fuel i then out := out.push v
      return some (.list out.toList)
    | .mapping _ pairs _ _ =>
      if !(← uniqueKeys pairs) then return none
      let mut out : Array (Loose × Loose) := #[]
      let mut merge : Option Node := none
      for (k, v) in pairs do
        if k.isMergeKey then
          merge := some v
          continue
        match ← decodeLoose fuel k with
        | none => pure ()
        | some key =>
          match key with
          | .list _ | .map _ => decodeFailure "invalid map key"
          | _ => pure ()
          match ← decodeLoose fuel v with
          | some value => out := out.push (key, value)
          | none => if v.isNull then out := out.push (key, .scalar .null)
      if let some m := merge then
        for source in ← mergeSources m do
          if let some (.map extra) ← decodeLoose fuel source then
            out := out ++ extra.toArray
      return some (.map out.toList)
    | .alias .. => return none

/-- Decode a sequence node into a list of texts, dropping the items left unset. -/
def decodeTexts (n : Node) : DecodeM (Option (List String)) := do
  let n ← n.followAlias
  match n with
  | .scalar .. =>
    let (tag, v) ← n.scalarValue
    match v with
    | .null => return some []
    | _ => mismatch n tag "[]string"; return none
  | .sequence _ items _ _ =>
    let mut out : Array String := #[]
    for i in items do
      if let some s ← decodeText i then out := out.push s
    return some out.toList
  | .mapping _ ps _ _ =>
    if ← uniqueKeys ps then mismatch n "!!map" "[]string"
    return none
  | .alias .. => return none

/-- The text form of a key decoded as a record field name, or none when it is null or does
not fit. -/
def fieldName (k : Node) : DecodeM (Option String) := decodeText k

/-- The pairs of a mapping decoded into a record, in the order they are applied: the mapping's
own pairs, then those of its merge sources whose keys are not yet taken. Each group of pairs
comes from one mapping and may name each field once. -/
def recordGroups : Nat → Node → Option (List String) →
    DecodeM (Option (List (List (String × Node × Node)) × Option (List String)))
  | 0, _, _ => decodeFailure "exceeded max depth"
  | fuel + 1, n, taken => do
    let n ← n.followAlias
    match n with
    | .mapping _ pairs _ _ =>
      if !(← uniqueKeys pairs) then return none
      let mut group : Array (String × Node × Node) := #[]
      let mut taken := taken
      let mut merge : Option Node := none
      for (k, v) in pairs do
        if k.isMergeKey then
          merge := some v
          continue
        match ← fieldName k with
        | none => pure ()
        | some name =>
          match taken with
          | some names =>
            if names.contains name then continue
            taken := some (name :: names)
          | none => pure ()
          group := group.push (name, k, v)
      let mut groups := [group.toList]
      if let some m := merge then
        let ownKeys ← pairs.filterMapM fun (k, _) => do
          let (_, v) ← (← k.followAlias).scalarValue
          match v with
          | .text s => return some s
          | _ => return none
        let mut shared := taken.getD ownKeys
        for source in ← mergeSources m do
          match ← recordGroups fuel source (some shared) with
          | some (more, after) =>
            groups := groups ++ more
            shared := after.getD shared
          | none => pure ()
      return some (groups, taken)
    | _ => return none

/-- The message of decoding that ended with problems or a failure. -/
def decodeMessage (failure : Option String) (problems : Array Problem) : String :=
  match failure with
  | some f => "yaml: " ++ f
  | none =>
    "yaml: unmarshal errors:" ++
      String.join (problems.toList.map fun p => "\n  line " ++ toString p.line ++ ": " ++ p.message)

/-- Run a decoding: its value when nothing went wrong, else the message. -/
def runDecode (m : DecodeM α) : Except String α :=
  match m.run #[] with
  | .error f => .error (decodeMessage (some f) #[])
  | .ok (a, problems) => if problems.isEmpty then .ok a else .error (decodeMessage none problems)

end Conform.Yaml
