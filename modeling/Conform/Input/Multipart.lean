import Conform.Input.MediaType
/-! Multipart form bodies: parts between boundary lines, each with header lines and content; a part
named as `form-data` without a file gives a form value, and a body ends plainly or with a
reading error.
-/

namespace Conform.Input

open Conform.Text

/-- A body being read: the bytes left and the error reading stops with after them (none for a
plain end). -/
structure BodyReader where
  rest : List UInt8
  failure : Option String := none

/-- The text of the error at the end of a body. -/
def BodyReader.endText (r : BodyReader) : String := r.failure.getD "EOF"

/-- The fixed strings of a multipart reader: the line break in use and the boundary line. -/
structure Delimiters where
  newline : List UInt8
  dashBoundary : List UInt8

/-- `--boundary` after a line break. -/
def Delimiters.newlineDashBoundary (d : Delimiters) : List UInt8 := d.newline ++ d.dashBoundary

/-- How many bytes a line being looked for may take before reading gives up. -/
def lineBufferSize : Nat := 4096

/-- How many parts a form may have. -/
def maxParts : Nat := 1000

/-- A line read from a body: a line with its line feed and what follows, a last piece without
a line feed at the end of the body, or a line longer than the buffer. -/
inductive LineRead where
  | line (bytes rest : List UInt8)
  | last (bytes : List UInt8)
  | tooLong

/-- Read up to and including the next line feed. -/
def readLine (bytes : List UInt8) : LineRead :=
  match bytes.findIdx? (· == 10) with
  | some i => if i < lineBufferSize then .line (bytes.take (i + 1)) (bytes.drop (i + 1)) else .tooLong
  | none => if bytes.length ≥ lineBufferSize then .tooLong else .last bytes

/-- Bytes without the blanks and tabs at their front. -/
def skipBlanks (bytes : List UInt8) : List UInt8 := bytes.dropWhile fun b => b == 32 || b == 9

/-- Bytes without the blanks and tabs at both ends. -/
def trimBlanks (bytes : List UInt8) : List UInt8 := (skipBlanks (skipBlanks bytes).reverse).reverse

/-- Whether a line is the closing boundary `--boundary--`, maybe with blanks and a line break. -/
def Delimiters.isFinal (d : Delimiters) (line : List UInt8) : Bool :=
  let closing := d.dashBoundary ++ [45, 45]
  closing.isPrefixOf line &&
    (let rest := skipBlanks (line.drop closing.length)
     rest.isEmpty || rest == d.newline)

/-- Whether a line is a boundary line `--boundary`, maybe with blanks, ending with the line
break in use. -/
def Delimiters.isBoundary (d : Delimiters) (line : List UInt8) : Bool :=
  d.dashBoundary.isPrefixOf line && skipBlanks (line.drop d.dashBoundary.length) == d.newline

/-- Whether the rest of a line after `--boundary` makes the first boundary line end in a bare
line feed, which switches the reader to bare line feeds. -/
def Delimiters.switchesToLineFeeds (d : Delimiters) (line : List UInt8) : Bool :=
  d.dashBoundary.isPrefixOf line && skipBlanks (line.drop d.dashBoundary.length) == [10]

/-- A line of a header block without its line break, or the end of the body. -/
def readHeaderLine (bytes : List UInt8) : Option (List UInt8 × List UInt8) :=
  match bytes.findIdx? (· == 10) with
  | some i =>
    let line := bytes.take i
    let line := if line.getLast? == some 13 then line.dropLast else line
    some (line, bytes.drop (i + 1))
  | none => if bytes.isEmpty then none else some (bytes, [])

/-- The continuation lines of a header line, each starting with blanks, joined to it with one
blank each. -/
def readContinuations : Nat → List UInt8 → List UInt8 → List UInt8 × List UInt8
  | 0, acc, bytes => (acc, bytes)
  | fuel + 1, acc, bytes =>
    match bytes with
    | b :: _ =>
      if b == 32 || b == 9 then
        let after := skipBlanks bytes
        match readHeaderLine after with
        | some (line, rest) => readContinuations fuel (acc ++ 32 :: trimBlanks line) rest
        | none => (acc ++ [32], after)
      else (acc, bytes)
    | [] => (acc, bytes)

/-- Whether a byte may be part of a header name. -/
def isHeaderNameByte (b : UInt8) : Bool :=
  (b ≥ 48 && b ≤ 57) || (b ≥ 65 && b ≤ 90) || (b ≥ 97 && b ≤ 122) ||
    [33, 35, 36, 37, 38, 39, 42, 43, 45, 46, 94, 95, 96, 124, 126].contains b

/-- Whether a byte may be part of a header value: a tab, visible ASCII, a blank, or any byte
above ASCII. -/
def isHeaderValueByte (b : UInt8) : Bool := b == 9 || (b ≥ 32 && b != 127)

/-- The canonical form of a header name: each word capitalised and the rest lower case; a name
with a blank in it is kept as it is, and a name with another character that is not allowed, or
an empty one, is refused. -/
def canonicalHeaderName (name : List UInt8) : Option String :=
  if name.isEmpty then none
  else if !name.all (fun b => isHeaderNameByte b || b == 32) then none
  else if name.contains 32 then some (utf8Lossy name)
  else
    let (_, out) := name.foldl (fun (upper, out) b =>
      let c := Char.ofNat b.toNat
      let c := if upper then c.toUpper else c.toLower
      (c == '-', out.push c)) (true, #[])
    some (String.ofList out.toList)

/-- How reading a header block failed: the body ended (none for a plain end, else the
reading error), or a line is malformed. -/
inductive HeaderFault where
  | ended (failure : Option String)
  | malformed (message : String)

/-- Read header lines up to the empty line that ends them. -/
def readHeaderLines (failure : Option String) :
    Nat → List (String × String) → List UInt8 → Except HeaderFault (List (String × String) × List UInt8)
  | 0, headers, bytes => .ok (headers, bytes)
  | fuel + 1, headers, bytes =>
    match readHeaderLine bytes with
    | none => .error (.ended failure)
    | some ([], rest) => .ok (headers, rest)
    | some (first, rest) =>
      if !first.contains 58 then
        .error (.malformed ("malformed MIME header: missing colon: " ++ quoteBytes first))
      else
        let (line, rest) := readContinuations (rest.length + 1) (trimBlanks first) rest
        let key := line.takeWhile (· != 58)
        let value := (line.dropWhile (· != 58)).drop 1
        let bad := HeaderFault.malformed ("malformed MIME header line: " ++ utf8Lossy line)
        match canonicalHeaderName key with
        | none => .error bad
        | some name =>
          if !value.all isHeaderValueByte then .error bad
          else readHeaderLines failure fuel (headers ++ [(name, utf8Lossy (skipBlanks value))]) rest

/-- Read a part's header block. A block may not start with a blank. -/
def readHeaders (r : BodyReader) : Except HeaderFault (List (String × String) × List UInt8) :=
  match r.rest with
  | b :: _ =>
    if b == 32 || b == 9 then
      match readHeaderLine r.rest with
      | some (line, _) =>
        if line.length > 80 then .error (.malformed "multipart: message too large")
        else .error (.malformed ("malformed MIME header initial line: " ++ utf8Lossy line))
      | none => .error (.ended r.failure)
    else readHeaderLines r.failure (r.rest.length + 1) [] r.rest
  | [] => readHeaderLines r.failure 1 [] []

/-- The first value of a header. -/
def headerValue (headers : List (String × String)) (name : String) : String :=
  ((headers.find? (·.1 == name)).map (·.2)).getD ""

/-- What looking for the next part found. -/
inductive NextPart where
  /-- A part: its headers, the body at its content and the delimiters from then on. -/
  | part (headers : List (String × String)) (r : BodyReader) (d : Delimiters)
  /-- The end of the form. -/
  | done
  | failed (message : String)

/-- Look for the next part: skip the lines before the first boundary line, then expect the
line break that ends the previous part's content and a boundary line. -/
def nextPart (partsRead : Nat) (d : Delimiters) (r : BodyReader) : NextPart :=
  if d.dashBoundary == [45, 45] then .failed "multipart: boundary is empty"
  else go (r.rest.length + 2) d r.rest false
where
  go : Nat → Delimiters → List UInt8 → Bool → NextPart
    | 0, _, _, _ => .done
    | fuel + 1, d, bytes, expectPart =>
      match readLine bytes with
      | .tooLong => .failed "multipart: NextPart: bufio: buffer full"
      | .last line =>
        if r.failure.isNone && d.isFinal line then .done
        else .failed ("multipart: NextPart: " ++ r.endText)
      | .line line rest =>
        let d := if partsRead == 0 && d.switchesToLineFeeds line then
            { d with newline := [10] } else d
        if d.isBoundary line then
          match readHeaders { r with rest } with
          | .ok (headers, after) => .part headers { r with rest := after } d
          | .error (.ended none) => .done
          | .error (.ended (some m)) => .failed m
          | .error (.malformed m) => .failed m
        else if d.isFinal line then .done
        else if expectPart then
          .failed ("multipart: expecting a new Part; got line " ++ quoteBytes line)
        else if partsRead == 0 then go fuel d rest false
        else if line == d.newline then go fuel d rest true
        else .failed ("multipart: unexpected line in Next(): " ++ quoteBytes line)

/-- Whether a byte may follow `--boundary` where a part's content ends. -/
def endsContent (b : UInt8) : Bool := b == 32 || b == 9 || b == 13 || b == 10 || b == 45

/-- Where a part's content ends: the first line break and `--boundary` followed by a blank, a
line break, a dash or the end of the body, at or after a position. -/
def contentEnd (d : Delimiters) (bytes : List UInt8) : Nat → Nat → Option Nat
  | 0, _ => none
  | fuel + 1, i =>
    let here := bytes.drop i
    if here.isEmpty then none
    else if d.newlineDashBoundary.isPrefixOf here then
      match here.drop d.newlineDashBoundary.length with
      | [] => some i
      | b :: _ => if endsContent b then some i else contentEnd d bytes fuel (i + d.newlineDashBoundary.length)
    else contentEnd d bytes fuel (i + 1)

/-- A part's content and the body after it, or the error of a body that ends inside it. A part
may also end at once with `--boundary` where its content would start. -/
def readContent (d : Delimiters) (r : BodyReader) : Except String (List UInt8 × BodyReader) :=
  let bytes := r.rest
  let start :=
    if d.dashBoundary.isPrefixOf bytes then
      match bytes.drop d.dashBoundary.length with
      | [] => none
      | b :: _ => if endsContent b then none else some d.dashBoundary.length
    else some 0
  match start with
  | none => .ok ([], r)
  | some s =>
    match contentEnd d bytes (bytes.length + 1) s with
    | some i => .ok (bytes.take i, { r with rest := bytes.drop i })
    | none => .error (r.failure.getD "unexpected EOF")

/-- The form name of a part: the `name` of a `form-data` disposition. -/
def formName (headers : List (String × String)) : String :=
  match readMediaType (headerValue headers "Content-Disposition") with
  | .ok m => if m.name == "form-data" then (m.param? "name").getD "" else ""
  | .error _ => ""

/-- The file name a part's disposition gives, empty for none. -/
def fileName (headers : List (String × String)) : String :=
  match readMediaType (headerValue headers "Content-Disposition") with
  | .ok m => (m.param? "filename").getD ""
  | .error _ => ""

/-- Read the form values of a multipart body, in order. -/
def readMultipart (boundary : String) (r : BodyReader) : Except String (List (String × String)) :=
  let d : Delimiters := ⟨[13, 10], (("--" ++ boundary).toUTF8.toList)⟩
  go (r.rest.length + 2) 0 d r []
where
  go : Nat → Nat → Delimiters → BodyReader → List (String × String) →
      Except String (List (String × String))
    | 0, _, _, _, values => .ok values
    | fuel + 1, partsRead, d, r, values =>
      match nextPart partsRead d r with
      | .done => .ok values
      | .failed m => .error m
      | .part headers r d =>
        if partsRead ≥ maxParts then .error "multipart: message too large"
        else
          let name := formName headers
          if name.isEmpty then
            match readContent d r with
            | .ok (_, r) => go fuel (partsRead + 1) d r values
            | .error _ => go fuel (partsRead + 1) d { r with rest := [] } values
          else
            match readContent d r with
            | .error m => .error m
            | .ok (content, r) =>
              let values := if (fileName headers).isEmpty then values ++ [(name, utf8Lossy content)]
                else values
              go fuel (partsRead + 1) d r values

end Conform.Input
