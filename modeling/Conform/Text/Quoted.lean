import Conform.Text.Printable
/-!
Quoted text as error messages show it: a double-quoted string or a single-quoted character in
which printable characters stand as they are and every other one is an escape. The quote
itself and the backslash take a backslash; control characters with a short name (`\n`, `\t`,
...) take that name; the other ones below the space, and DEL, take `\x` and two hex digits;
the rest take `\u` and four or `\U` and eight hex digits.
-/

namespace Conform.Text

/-- The lowercase hex digit of a number below sixteen. -/
def hexDigit (n : Nat) : Char :=
  if n < 10 then Char.ofNat (48 + n) else Char.ofNat (87 + n)

/-- The lowest `width` hex digits of `n`, most significant first, in lowercase. -/
def hexDigits (width n : Nat) : String :=
  String.ofList ((List.range width).reverse.map fun i => hexDigit (n / Nat.pow 16 i % 16))

/-- The escape of a character that is not printable. -/
def escapeUnprintable (c : Char) : String :=
  match c with
  | '\x07' => "\\a"
  | '\x08' => "\\b"
  | '\x0c' => "\\f"
  | '\n' => "\\n"
  | '\r' => "\\r"
  | '\t' => "\\t"
  | '\x0b' => "\\v"
  | _ =>
    if c.toNat < 0x20 || c.toNat == 0x7F then "\\x" ++ hexDigits 2 c.toNat
    else if c.toNat < 0x10000 then "\\u" ++ hexDigits 4 c.toNat
    else "\\U" ++ hexDigits 8 c.toNat

/-- One character inside quotes `q`: the quote and the backslash are escaped, printable
characters stay, the rest are escapes. -/
def quoteInner (q : Char) (c : Char) : String :=
  if c == q || c == '\\' then String.ofList ['\\', c]
  else if isPrintable c then String.singleton c
  else escapeUnprintable c

/-- A string in double quotes with its unprintable characters escaped. -/
def quote (s : String) : String :=
  "\"" ++ String.join (s.toList.map (quoteInner '"')) ++ "\""

/-- A character in single quotes with the same escapes as `quote`. -/
def quoteChar (c : Char) : String :=
  "'" ++ quoteInner '\'' c ++ "'"

end Conform.Text
