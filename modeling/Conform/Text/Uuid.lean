import Conform.Text.Url
/-!
UUIDs in their canonical text: 36 ASCII characters, hexadecimal digits in groups of 8, 4, 4, 4
and 12 joined by dashes, in either case.
-/

namespace Conform.Text

/-- Whether a text is a UUID in canonical form. -/
def isUuid (text : String) : Bool :=
  let s := text.toList
  text.utf8ByteSize == 36 && s.length == 36 &&
    (s.zipIdx.all fun (c, i) =>
      if i == 8 || i == 13 || i == 18 || i == 23 then c == '-' else isHexChar c)

end Conform.Text
