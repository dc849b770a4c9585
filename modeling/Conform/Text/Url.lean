/-! Absolute URLs as a request names them: a scheme, `//`, an authority whose host is not empty, and
a path; the query is not looked at.
-/

namespace Conform.Text

/-- Whether a character is a hexadecimal digit. -/
def isHexChar (c : Char) : Bool := c.isDigit || ('a' ≤ c.toLower && c.toLower ≤ 'f')

/-- The value of a hexadecimal digit. -/
def hexCharValue (c : Char) : Nat :=
  if c.isDigit then c.toNat - '0'.toNat else c.toLower.toNat - 'a'.toNat + 10

/-- Whether a character may stand in a host unescaped. -/
def isHostChar (c : Char) : Bool :=
  c.toNat ≥ 0x80 || c.isAlphanum || "-_.~!$&'()*+,;=:[]<>\"".toList.contains c

/-- Whether every percent sign of a text starts an escape of two hexadecimal digits. -/
def escapesWellFormed : List Char → Bool
  | [] => true
  | '%' :: a :: b :: rest => isHexChar a && isHexChar b && escapesWellFormed rest
  | '%' :: _ => false
  | _ :: rest => escapesWellFormed rest

/-- Whether a text is a host: host characters and escapes of bytes beyond ASCII (or `%25`). -/
def hostCharsFit : List Char → Bool
  | [] => true
  | '%' :: a :: b :: rest =>
    isHexChar a && isHexChar b && (hexCharValue a ≥ 8 || (a == '2' && b == '5')) &&
      hostCharsFit rest
  | '%' :: _ => false
  | c :: rest => isHostChar c && hostCharsFit rest

/-- Whether a text is empty or a colon and digits. -/
def isOptionalPort : List Char → Bool
  | [] => true
  | ':' :: digits => digits.all Char.isDigit
  | _ => false

/-- The host of an authority's host part and port, when it is well formed. -/
def parseHost (s : List Char) : Option String :=
  match s with
  | '[' :: _ =>
    match (s.reverse.findIdx? (· == ']')) with
    | none => none
    | some j =>
      let i := s.length - 1 - j
      if !isOptionalPort (s.drop (i + 1)) then none
      else if hostCharsFit s then some (String.ofList s) else none
  | _ =>
    let portOk := match s.reverse.findIdx? (· == ':') with
      | none => true
      | some j => isOptionalPort (s.drop (s.length - 1 - j))
    if portOk && hostCharsFit s then some (String.ofList s) else none

/-- Whether a character may stand in the user part of an authority. -/
def isUserChar (c : Char) : Bool :=
  c.isAlphanum && c.toNat < 0x80 || "-._:~!$&'()*+,;=%@".toList.contains c

/-- The host of an authority, when it is well formed. -/
def parseAuthority (s : List Char) : Option String :=
  match s.reverse.findIdx? (· == '@') with
  | none => parseHost s
  | some j =>
    let i := s.length - 1 - j
    match parseHost (s.drop (i + 1)) with
    | none => none
    | some host =>
      let user := s.take i
      if user.all isUserChar && escapesWellFormed user then some host else none

/-- The scheme of a text and the rest after its colon, or none when the text does not start with
a scheme; an empty scheme before a colon is an error. -/
def splitScheme (s : List Char) : Except Unit (Option (List Char × List Char)) :=
  let rec go (i : Nat) : List Char → Except Unit (Option (List Char × List Char))
    | [] => .ok none
    | c :: rest =>
      if c.isAlpha then go (i + 1) rest
      else if c.isDigit || c == '+' || c == '-' || c == '.' then
        if i == 0 then .ok none else go (i + 1) rest
      else if c == ':' then
        if i == 0 then .error () else .ok (some (s.take i, rest))
      else .ok none
  go 0 s

/-- Whether a text is an absolute URL with a scheme and a host. -/
def isAbsoluteUrl (text : String) : Bool :=
  let s := text.toList
  if s.any (fun c => c.toNat < 0x20 || c.toNat == 0x7F) || s.isEmpty then false
  else
    match splitScheme s with
    | .error _ | .ok none => false
    | .ok (some (_, rest)) =>
      let rest := match rest.findIdx? (· == '?') with
        | some i => rest.take i
        | none => rest
      match rest with
      | '/' :: '/' :: after =>
        let (authority, path) := match after.findIdx? (· == '/') with
          | some i => (after.take i, after.drop i)
          | none => (after, [])
        match parseAuthority authority with
        | some host => !host.isEmpty && escapesWellFormed path
        | none => false
      | _ => false

end Conform.Text
