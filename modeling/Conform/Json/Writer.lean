import Conform.Json.Value
import Conform.Text.Quoted
/-!
Writing JSON text without blanks. A quote and a backslash inside a string take a backslash;
control characters take their short escape (`\b`, `\f`, `\n`, `\r`, `\t`) or `\u00XX`. A
`JsonStyle` says which further characters are escaped: the web style also escapes `<`, `>`
and `&` and the line and paragraph separators, so that the text can stand inside a web page.
-/

namespace Conform

/-- Which characters beyond the quote, the backslash and the controls a writer escapes. -/
structure JsonStyle where
  /-- Escape `<`, `>` and `&` as `\u003c`, `\u003e` and `\u0026`. -/
  escapeMarkup : Bool
  /-- Escape U+2028 and U+2029 as `\u2028` and `\u2029`. -/
  escapeSeparators : Bool

namespace JsonStyle

/-- The style of documents served to the web: markup characters and separators escaped. -/
def web : JsonStyle := ⟨true, true⟩

/-- The plain style: only what JSON requires is escaped. -/
def plain : JsonStyle := ⟨false, false⟩

end JsonStyle

namespace JsonValue

/-- One character of a string as a style writes it. -/
def escapeChar (style : JsonStyle) (c : Char) : String :=
  match c with
  | '"' => "\\\""
  | '\\' => "\\\\"
  | '\x08' => "\\b"
  | '\x0c' => "\\f"
  | '\n' => "\\n"
  | '\r' => "\\r"
  | '\t' => "\\t"
  | _ =>
    if c.toNat < 0x20 then "\\u00" ++ Text.hexDigits 2 c.toNat
    else if style.escapeMarkup && (c == '<' || c == '>' || c == '&') then
      "\\u00" ++ Text.hexDigits 2 c.toNat
    else if style.escapeSeparators && (c == '\u2028' || c == '\u2029') then
      "\\u" ++ Text.hexDigits 4 c.toNat
    else String.singleton c

/-- A string in double quotes, escaped as a style says. -/
def quoteString (style : JsonStyle) (s : String) : String :=
  "\"" ++ String.join (s.toList.map (escapeChar style)) ++ "\""

mutual

/-- A document as text without blanks; numbers are written as their text. -/
def write (style : JsonStyle) : JsonValue → String
  | .null => "null"
  | .bool true => "true"
  | .bool false => "false"
  | .number text => text
  | .string s => quoteString style s
  | .array items => "[" ++ writeItems style items ++ "]"
  | .object members => "\x7b" ++ writeMembers style members ++ "\x7d"

/-- Array items separated by commas. -/
def writeItems (style : JsonStyle) : List JsonValue → String
  | [] => ""
  | [v] => write style v
  | v :: rest => write style v ++ "," ++ writeItems style rest

/-- Object members separated by commas, each a key, a colon and a value. -/
def writeMembers (style : JsonStyle) : List (String × JsonValue) → String
  | [] => ""
  | [(k, v)] => quoteString style k ++ ":" ++ write style v
  | (k, v) :: rest => quoteString style k ++ ":" ++ write style v ++ "," ++ writeMembers style rest

end

end JsonValue

end Conform
