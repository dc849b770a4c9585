/-!
Plain email addresses. An address is accepted when the whole text is a local part, `@` and a
domain, with nothing around them: the local part a dot-atom (atom characters and dots, no dot
at either end and no two together), the domain a dot-atom or an IP address in brackets, and the
domain holding a dot that does not begin or end it. Atom characters are the visible ASCII
characters other than the specials `()<>[]:;@\,"`, and every character beyond ASCII.
-/

namespace Conform.Text

/-- Whether a character may stand in an atom; a dot only when `dot` is set. -/
def isAtomChar (dot : Bool) (c : Char) : Bool :=
  if c == '.' then dot
  else if "()<>[]:;@\\,\"".toList.contains c then false
  else ('!' ≤ c && c ≤ '~') || c.toNat ≥ 0x80

/-- Whether a text is a dot-atom: atom characters and dots, not empty, with no dot at either end
and no two dots together. -/
def isDotAtom (s : List Char) : Bool :=
  !s.isEmpty && s.all (isAtomChar true) && s.head? != some '.' && s.getLast? != some '.' &&
    !(s.zip s.tail).any (fun (a, b) => a == '.' && b == '.')

/-- The pieces of a text between the occurrences of a separator. -/
def pieces (sep : Char) (s : List Char) : List (List Char) :=
  ((String.ofList s).splitOn (String.singleton sep)).map String.toList

/-- Whether a text is a number from 0 to 255 written without leading zeros. -/
def isOctet (s : List Char) : Bool :=
  !s.isEmpty && s.length ≤ 3 && s.all Char.isDigit && (s.length == 1 || s.head? != some '0') &&
    s.foldl (fun n c => n * 10 + (c.toNat - '0'.toNat)) 0 ≤ 255

/-- Whether a text is an IPv4 address: four octets joined by dots. -/
def isIPv4 (s : List Char) : Bool :=
  let parts := pieces '.' s
  parts.length == 4 && parts.all isOctet

/-- Whether a text is a group of one to four hexadecimal digits. -/
def isHexGroup (s : List Char) : Bool :=
  !s.isEmpty && s.length ≤ 4 && s.all fun c => c.isDigit || ('a' ≤ c.toLower && c.toLower ≤ 'f')

/-- How many 16-bit groups a run of IPv6 groups stands for, when it is well formed; the last
group may be an IPv4 address, which counts as two. -/
def ipv6Groups (parts : List (List Char)) : Option Nat :=
  match parts.reverse with
  | [] => some 0
  | last :: before =>
    if before.all isHexGroup then
      if isHexGroup last then some (before.length + 1)
      else if isIPv4 last then some (before.length + 2)
      else none
    else none

/-- Whether a text is an IPv6 address: eight groups, or fewer with one `::` standing for the
rest. -/
def isIPv6 (s : List Char) : Bool :=
  let text := String.ofList s
  match text.splitOn "::" with
  | [whole] =>
    match ipv6Groups (pieces ':' whole.toList) with
    | some n => n == 8
    | none => false
  | [front, back] =>
    let groups (t : String) : Option Nat :=
      if t.isEmpty then some 0 else ipv6Groups (pieces ':' t.toList)
    let frontOk := front.isEmpty || (pieces ':' front.toList).all isHexGroup
    match groups front, groups back with
    | some a, some b => frontOk && a + b < 8
    | _, _ => false
  | _ => false

/-- Whether a text is an IP address of either kind. -/
def isIPAddress (s : List Char) : Bool := isIPv4 s || isIPv6 s

/-- Whether a text is a domain literal: an IP address in brackets, of visible characters. -/
def isDomainLiteral (s : List Char) : Bool :=
  match s with
  | '[' :: rest =>
    match rest.reverse with
    | ']' :: inner =>
      let inner := inner.reverse
      inner.all (fun c => c != '[' && c != ']' && c != '\\' &&
        (('!' ≤ c && c ≤ '~') || c.toNat ≥ 0x80)) && isIPAddress inner
    | _ => false
  | _ => false

/-- Whether a text is a plain email address whose domain has a dot inside it. -/
def isEmailAddress (text : String) : Bool :=
  let s := text.toList
  match s.findIdx? (· == '@') with
  | none => false
  | some i =>
    let localPart := s.take i
    let domain := s.drop (i + 1)
    isDotAtom localPart && (isDotAtom domain || isDomainLiteral domain) &&
      domain.contains '.' && domain.head? != some '.' && domain.getLast? != some '.'

end Conform.Text
