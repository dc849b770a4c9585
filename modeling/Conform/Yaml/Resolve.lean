import Conform.Yaml.Node
import Conform.Number.Reading
import Conform.Calendar.Text
/-!
What a YAML scalar stands for. A plain scalar with no tag is resolved by its text: the words
for null, booleans, infinities and NaN; timestamps that start with a four-digit year and a dash;
whole numbers in decimal or with a base prefix, underscores ignored; and decimal floats.
Everything else is a string. A scalar with a standard tag is resolved the same way and must
resolve to that tag, except that a whole number may stand for a float.
-/

namespace Conform.Yaml

open Conform.Number Conform.Calendar

/-- The value a scalar resolves to. -/
inductive ScalarValue where
  | null
  | bool (b : Bool)
  /-- A whole number in the signed 64-bit range. -/
  | int (n : Int)
  /-- A whole number above the signed 64-bit range, below `2^64`. -/
  | uint (n : Nat)
  | float (x : Float)
  | text (s : String)
  | timestamp (t : Moment)
  deriving Inhabited

/-- Tags that resolution knows. -/
def resolvableTag (tag : String) : Bool :=
  tag == "" || tag == "!!str" || tag == "!!bool" || tag == "!!int" || tag == "!!float" ||
    tag == "!!timestamp"

/-- The words with a fixed meaning. -/
def fixedWord? (s : String) : Option (String × ScalarValue) :=
  if s == "true" || s == "True" || s == "TRUE" then some ("!!bool", .bool true)
  else if s == "false" || s == "False" || s == "FALSE" then some ("!!bool", .bool false)
  else if s == "" || s == "~" || s == "null" || s == "Null" || s == "NULL" then some ("!!null", .null)
  else if s == ".nan" || s == ".NaN" || s == ".NAN" then some ("!!float", .float (0.0 / 0.0))
  else if s == ".inf" || s == ".Inf" || s == ".INF" || s == "+.inf" || s == "+.Inf" || s == "+.INF" then
    some ("!!float", .float (1.0 / 0.0))
  else if s == "-.inf" || s == "-.Inf" || s == "-.INF" then some ("!!float", .float (-1.0 / 0.0))
  else if s == "<<" then some ("!!merge", .text "<<")
  else none

/-- The layouts a timestamp may take. -/
def timestampLayouts : List Layout :=
  [Layout.shortDateTime "T", Layout.shortDateTime "t", Layout.shortDateClock, Layout.shortDate]

/-- A timestamp: four digits, a dash, and then one of the timestamp layouts. -/
def readTimestamp? (s : String) : Option Moment :=
  let cs := s.toList
  let year := cs.takeWhile Char.isDigit
  if year.length == 4 && (cs.drop 4).head? == some '-' then readFirst? timestampLayouts s
  else none

/-- A whole number read in a base, as a signed value when it fits and unsigned otherwise. -/
def wholeNumber? (text : String) (base : Nat) : Option ScalarValue :=
  match readInt text base 64 with
  | .ok n => some (.int n)
  | .error _ =>
    match readNat text base 64 with
    | .ok n => some (.uint n)
    | .error _ => none

/-- Resolve a scalar's text under a known tag, before the tag is checked. -/
def resolveKnown (tag value : String) : String × ScalarValue :=
  let hint : Option Char :=
    match value.toList with
    | [] => some 'N'
    | c :: _ =>
      if c == '+' || c == '-' then some 'S'
      else if c.isDigit then some 'D'
      else if "yYnNtTfFoO~".toList.contains c then some 'M'
      else if c == '.' then some '.'
      else none
  match hint with
  | none => ("!!str", .text value)
  | some hint =>
    if tag == "!!str" then ("!!str", .text value)
    else
      match fixedWord? value with
      | some r => r
      | none =>
        if hint == '.' then
          match parseFloat? value with
          | some x => ("!!float", .float x)
          | none => ("!!str", .text value)
        else if hint == 'D' || hint == 'S' then
          let stamp := if tag == "" || tag == "!!timestamp" then readTimestamp? value else none
          match stamp with
          | some t => ("!!timestamp", .timestamp t)
          | none =>
            let plain := String.ofList (value.toList.filter (· != '_'))
            match readInt plain 0 64 with
            | .ok n => ("!!int", .int n)
            | .error _ =>
              match readNat plain 0 64 with
              | .ok n => ("!!int", .uint n)
              | .error _ =>
                let asFloat := if isDecimalText plain then parseFloat? plain else none
                match asFloat with
                | some x => ("!!float", .float x)
                | none =>
                  let body (n : Nat) := String.ofList (plain.toList.drop n)
                  let prefixed : Option ScalarValue :=
                    if plain.startsWith "0b" then wholeNumber? (body 2) 2
                    else if plain.startsWith "-0b" then
                      match readInt ("-" ++ body 3) 2 64 with
                      | .ok n => some (.int n)
                      | .error _ => none
                    else if plain.startsWith "0o" then wholeNumber? (body 2) 8
                    else if plain.startsWith "-0o" then
                      match readInt ("-" ++ body 3) 8 64 with
                      | .ok n => some (.int n)
                      | .error _ => none
                    else none
                  match prefixed with
                  | some v => ("!!int", v)
                  | none => ("!!str", .text value)
        else ("!!str", .text value)

/-- Resolve a scalar under a tag (empty for none): the tag it resolves to and its value. A
standard tag that the text does not fit is a failure. -/
def resolve (tag value : String) : Except String (String × ScalarValue) :=
  let tag := shortTag tag
  if !resolvableTag tag then .ok (tag, .text value)
  else
    let (rtag, out) := resolveKnown tag value
    if tag == "" || tag == rtag || tag == "!!str" then .ok (rtag, out)
    else
      match tag, rtag, out with
      | "!!float", "!!int", .int n =>
        .ok ("!!float", .float (floatOfRational (n < 0) n.natAbs 1).1)
      | _, _, _ =>
        .error ("cannot decode " ++ rtag ++ " `" ++ value ++ "` as a " ++ tag)

/-- The tag a node carries once read: its own, or else `!!str` for a quoted or block scalar,
`!!merge` for a plain `<<`, the resolved tag of another plain scalar, and `!!seq` or `!!map` for
a collection; an alias carries none. -/
def Node.tag : Node → String
  | .scalar tag value style _ _ =>
    if tag != "" then tag
    else if style != .plain then "!!str"
    else if value == "<<" then "!!merge"
    else (resolveKnown "" value).1
  | .sequence tag _ _ _ => if tag != "" then tag else "!!seq"
  | .mapping tag _ _ _ => if tag != "" then tag else "!!map"
  | .alias .. => ""

/-- The tag of a node, looking through an alias to its node. -/
def Node.shortTag : Node → String
  | .alias _ (some target) _ _ => target.tag
  | n => n.tag

/-- Whether a node is a scalar that reads as a string however it is written. -/
def Node.isString : Node → Bool
  | n@(.scalar ..) => n.tag == "!!str"
  | _ => false

/-- Whether a node is a plain `<<` merge key. -/
def Node.isMergeKey : Node → Bool
  | n@(.scalar _ value _ _ _) => value == "<<" && n.tag == "!!merge"
  | _ => false

end Conform.Yaml
