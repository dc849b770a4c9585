/-!
White space as Unicode defines it: the ASCII blanks and line breaks, the next line and
no-break space characters, and the space separators and line and paragraph separators above
Latin-1. Trimming removes it from both ends of a text.
-/

namespace Conform.Text

/-- Whether a character is white space. -/
def isSpace (c : Char) : Bool :=
  let n := c.toNat
  (0x09 ≤ n && n ≤ 0x0D) || n == 0x20 || n == 0x85 || n == 0xA0 || n == 0x1680 ||
    (0x2000 ≤ n && n ≤ 0x200A) || n == 0x2028 || n == 0x2029 || n == 0x202F || n == 0x205F ||
    n == 0x3000

/-- Characters without the white space at their front. -/
def dropSpace (cs : List Char) : List Char := cs.dropWhile isSpace

/-- Characters without the white space at both ends. -/
def trimSpaceChars (cs : List Char) : List Char := (dropSpace (dropSpace cs).reverse).reverse

/-- A text without the white space at both ends. -/
def trimSpace (s : String) : String := String.ofList (trimSpaceChars s.toList)

end Conform.Text
