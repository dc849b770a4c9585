import Conform.Text.Space
import Conform.Text.Utf8
/-! Media types as headers give them: a lower-cased type and subtype, then parameters, with the
extended notation for names that end in a star.
-/

namespace Conform.Input

open Conform.Text

/-- Why a media type could not be read. -/
inductive MediaError where
  | noMediaType
  | expectedSlash
  | expectedSubtype
  | unexpectedContent
  | invalidParameter
  | duplicateParameter
  deriving Repr, DecidableEq

/-- The message of a media type error. -/
def MediaError.message : MediaError → String
  | .noMediaType => "mime: no media type"
  | .expectedSlash => "mime: expected slash after first token"
  | .expectedSubtype => "mime: expected token after slash"
  | .unexpectedContent => "mime: unexpected content after media subtype"
  | .invalidParameter => "mime: invalid media parameter"
  | .duplicateParameter => "mime: duplicate parameter name"

/-- A media type: its lower-cased name and its parameters. -/
structure MediaType where
  name : String
  params : List (String × String)
  deriving Repr

/-- The value of a parameter. -/
def MediaType.param? (m : MediaType) (key : String) : Option String :=
  (m.params.find? (·.1 == key)).map (·.2)

/-- The characters that separate tokens. -/
def isSpecial (c : Char) : Bool := "()<>@,;:\\\"/[]?=".toList.contains c

/-- A character of a token: visible ASCII that is not a separator. -/
def isTokenChar (c : Char) : Bool := c.toNat > 0x20 && c.toNat < 0x7F && !isSpecial c

/-- A token at the front, and what follows it. -/
def takeToken (cs : List Char) : List Char × List Char :=
  (cs.takeWhile isTokenChar, cs.dropWhile isTokenChar)

/-- Check a lower-cased media type: a token, or two tokens around a slash. -/
def checkName (cs : List Char) : Option MediaError :=
  let (kind, rest) := takeToken cs
  if kind.isEmpty then some .noMediaType
  else
    match rest with
    | [] => none
    | '/' :: rest =>
      let (sub, rest) := takeToken rest
      if sub.isEmpty then some .expectedSubtype
      else if rest.isEmpty then none
      else some .unexpectedContent
    | _ => some .expectedSlash

/-- The inside of a quoted string up to its closing quote, and what follows; none without a
closing quote or with a line break inside. A backslash escapes a separator and stands for
itself before anything else. -/
def quotedValue (acc : List Char) : List Char → Option (List Char × List Char)
  | [] => none
  | '"' :: rest => some (acc.reverse, rest)
  | '\\' :: c :: rest =>
    if isSpecial c then quotedValue (c :: acc) rest else quotedValue ('\\' :: acc) (c :: rest)
  | c :: rest => if c == '\r' || c == '\n' then none else quotedValue (c :: acc) rest

/-- A parameter value at the front, a quoted string or a token, and what follows; an empty
value with nothing consumed when there is none. -/
def takeValue (cs : List Char) : List Char × List Char :=
  match cs with
  | '"' :: rest =>
    match quotedValue [] rest with
    | some r => r
    | none => ([], cs)
  | _ => takeToken cs

/-- A parameter `; name=value` at the front: its lower-cased name, its value and what follows;
none when there is no well-formed parameter. -/
def takeParam (cs : List Char) : Option (String × String × List Char) :=
  match dropSpace cs with
  | ';' :: rest =>
    let (name, rest) := takeToken (dropSpace rest)
    if name.isEmpty then none
    else
      match dropSpace rest with
      | '=' :: rest =>
        let rest := dropSpace rest
        let (value, after) := takeValue rest
        if value.isEmpty && after.length == rest.length then none
        else some (String.ofList (name.map Char.toLower), String.ofList value, after)
      | _ => none
  | _ => none

/-- Whether a byte is a hex digit. -/
def isHexByte (b : UInt8) : Bool :=
  (b ≥ 48 && b ≤ 57) || (b ≥ 65 && b ≤ 70) || (b ≥ 97 && b ≤ 102)

/-- The value of a hex digit byte. -/
def hexByteValue (b : UInt8) : Nat :=
  if b ≤ 57 then b.toNat - 48 else if b ≤ 70 then b.toNat - 55 else b.toNat - 87

/-- Bytes with each `%` and two hex digits replaced by the byte they give; none when a `%`
is not followed by two hex digits. -/
def percentDecode : List UInt8 → Option (List UInt8)
  | [] => some []
  | 37 :: h :: l :: rest =>
    if isHexByte h && isHexByte l then
      (percentDecode rest).map (((hexByteValue h * 16 + hexByteValue l).toUInt8) :: ·)
    else none
  | 37 :: _ => none
  | b :: rest => (percentDecode rest).map (b :: ·)

/-- An extended value `charset'language'bytes`, for the charsets `us-ascii` and `utf-8`. -/
def decodeExtended (v : String) : Option String :=
  let quote := String.singleton (Char.ofNat 39)
  match v.splitOn quote with
  | charset :: _ :: rest@(_ :: _) =>
    let cs := charset.toList.map Char.toLower
    if cs == "us-ascii".toList || cs == "utf-8".toList then
      (percentDecode (quote.intercalate rest).toUTF8.toList).map utf8Lossy
    else none
  | _ => none

/-- Set a parameter in a list of parameters; none when it is already set to another value. -/
def setParam (params : List (String × String)) (key value : String) :
    Option (List (String × String)) :=
  match params.find? (·.1 == key) with
  | some (_, v) => if v == value then some params else none
  | none => some (params ++ [(key, value)])

/-- Set or replace a parameter. -/
def putParam (params : List (String × String)) (key value : String) : List (String × String) :=
  if params.any (·.1 == key) then params.map fun (k, v) => if k == key then (k, value) else (k, v)
  else params ++ [(key, value)]

/-- The value of a parameter given in pieces: `name*` whole, or `name*0`, `name*1`, ... each
plain or, with a further star, percent-encoded (the first with a charset); none when no piece
is there. -/
def joinPieces (pieces : List (String × String)) (base : String) : Option String :=
  match pieces.find? (·.1 == base ++ "*") with
  | some (_, v) => decodeExtended v
  | none =>
    let rec go : Nat → Nat → String → Bool → Option String
      | 0, _, acc, found => if found then some acc else none
      | fuel + 1, n, acc, found =>
        let simple := base ++ "*" ++ toString n
        match pieces.find? (·.1 == simple) with
        | some (_, v) => go fuel (n + 1) (acc ++ v) true
        | none =>
          match pieces.find? (·.1 == simple ++ "*") with
          | none => if found then some acc else none
          | some (_, v) =>
            let piece :=
              if n == 0 then (decodeExtended v).getD ""
              else ((percentDecode v.toUTF8.toList).map utf8Lossy).getD ""
            go fuel (n + 1) (acc ++ piece) true
    go (pieces.length + 1) 0 "" false

/-- Read the parameters after a media type. Plain parameters and starred ones are kept apart;
the starred ones are joined at the end. -/
def readParams : Nat → List Char → List (String × String) → List (String × String) →
    Except MediaError (List (String × String) × List (String × String))
  | 0, _, plain, starred => .ok (plain, starred)
  | fuel + 1, cs, plain, starred =>
    let cs := dropSpace cs
    if cs.isEmpty then .ok (plain, starred)
    else
      match takeParam cs with
      | none =>
        if trimSpaceChars cs == [';'] then .ok (plain, starred) else .error .invalidParameter
      | some (key, value, rest) =>
        if key.contains '*' then
          match setParam starred key value with
          | some starred => readParams fuel rest plain starred
          | none => .error .duplicateParameter
        else
          match setParam plain key value with
          | some plain => readParams fuel rest plain starred
          | none => .error .duplicateParameter

/-- Read a header as a media type. A failure comes with the type name that is still known: the
name when only a parameter is malformed, else empty. -/
def readMediaType (header : String) : Except (String × MediaError) MediaType :=
  let cs := header.toList
  let base := cs.takeWhile (· != ';')
  let name := trimSpaceChars (base.map Char.toLower)
  match checkName name with
  | some e => .error ("", e)
  | none =>
    let nameText := String.ofList name
    match readParams (cs.length + 1) (cs.drop base.length) [] [] with
    | .error .invalidParameter => .error (nameText, .invalidParameter)
    | .error e => .error ("", e)
    | .ok (plain, starred) =>
      let bases := (starred.map fun (k, _) => (k.splitOn "*").headD k).eraseDups
      let params := bases.foldl (fun ps b =>
        match joinPieces starred b with
        | some v => putParam ps b v
        | none => ps) plain
      .ok ⟨nameText, params⟩

end Conform.Input
