import Conform.Text.Quoted
import Conform.Text.Space
/-! Environment files: lines `KEY=VALUE`, optionally after `export`, with comments, quoted values
and variables expanded from earlier keys and the environment; one malformed statement makes the
whole file unreadable.
-/

namespace Conform.Cli

open Conform.Text

/-- The blanks inside a line: tab, vertical tab, form feed, carriage return, space, next line
and no-break space. -/
def isBlank (c : Char) : Bool :=
  c == '\t' || c == '\x0b' || c == '\x0c' || c == '\r' || c == ' ' || c == '\u0085' || c == '\u00A0'

/-- Whether a byte, read as a Latin-1 character, may stand in a name: a blank, a letter, a
number or a dot. -/
def isNameByte (b : Nat) : Bool :=
  if b < 0x80 then
    let c := Char.ofNat b
    isBlank c || c.isAlphanum || c == '.' || c == '_'
  else
    b == 0x85 || b == 0xA0 || b == 0xAA || b == 0xB5 || b == 0xBA || (0xC0 ≤ b && b ≤ 0xD6) ||
      (0xD8 ≤ b && b ≤ 0xF6) || 0xF8 ≤ b || b == 0xB2 || b == 0xB3 || b == 0xB9 ||
      (0xBC ≤ b && b ≤ 0xBE)

/-- The first byte of a character that may not stand in a name. -/
def badNameByte? (c : Char) : Option Nat :=
  (String.singleton c).toUTF8.toList.map (·.toNat) |>.find? (!isNameByte ·)

/-- Replace every carriage return and line feed pair by a line feed. -/
def joinLineBreaks : List Char → List Char
  | '\r' :: '\n' :: rest => '\n' :: joinLineBreaks rest
  | c :: rest => c :: joinLineBreaks rest
  | [] => []

/-- The start of the next statement: past white space and comment lines; none at the end. -/
def statementStart : Nat → List Char → Option (List Char)
  | 0, _ => none
  | fuel + 1, cs =>
    match cs.dropWhile isSpace with
    | [] => none
    | '#' :: rest =>
      match rest.dropWhile (· != '\n') with
      | [] => none
      | after => statementStart fuel after
    | s => some s

/-- The name of a statement and what follows its `=` or `:`. A statement without either names
the empty key with everything as its value. -/
def keyName (src : List Char) : Except String (String × List Char) := do
  let src := src.dropWhile isBlank
  let src := match src with
    | 'e' :: 'x' :: 'p' :: 'o' :: 'r' :: 't' :: c :: rest =>
      if isBlank c then (c :: rest).dropWhile isBlank else src
    | _ => src
  let rec scan : List Char → Nat → Except String (Option Nat)
    | [], _ => .ok none
    | c :: rest, i =>
      if c == '=' || c == ':' then .ok (some i)
      else
        match badNameByte? c with
        | none => scan rest (i + 1)
        | some b =>
          .error ("unexpected character " ++ quote (String.singleton (Char.ofNat b)) ++
            " in variable name near " ++ quote (String.ofList src))
  let found ← scan src 0
  if src.isEmpty then throw "zero length string"
  let (key, offset) := match found with
    | some i => (src.take i, i + 1)
    | none => ([], 0)
  let key := (key.reverse.dropWhile isSpace).reverse
  return (String.ofList key, (src.drop offset).dropWhile isBlank)

/-- Undo escapes in a double-quoted value: `\n` and `\r` are line breaks, and a backslash before
anything but a dollar sign is dropped. -/
def unescapeQuoted (cs : List Char) : List Char :=
  let rec first : List Char → List Char
    | '\\' :: 'n' :: rest => '\n' :: first rest
    | '\\' :: 'r' :: rest => '\r' :: first rest
    | '\\' :: c :: rest => if c == '\n' then '\\' :: first (c :: rest) else '\\' :: c :: first rest
    | c :: rest => c :: first rest
    | [] => []
  let rec second : List Char → List Char
    | '\\' :: c :: rest => if c == '$' then '\\' :: second (c :: rest) else c :: second rest
    | c :: rest => c :: second rest
    | [] => []
  second (first cs)

/-- Whether a character may stand in a variable name. -/
def isVariableChar (c : Char) : Bool := ('A' ≤ c && c ≤ 'Z') || c.isDigit || c == '_'

/-- Expand the variables of a value. -/
def expandVariables (lookup : String → String) (cs : List Char) : List Char :=
  go cs.length cs
where
  go : Nat → List Char → List Char
    | 0, cs => cs
    | fuel + 1, cs =>
      match cs with
      | [] => []
      | '\\' :: '$' :: rest =>
        let (matched, after) := reference rest
        '$' :: matched.1 ++ go fuel after
      | '$' :: rest =>
        let (matched, after) := reference rest
        match matched.2 with
        | some name => (lookup name).toList ++ go fuel after
        | none => '$' :: matched.1 ++ go fuel after
      | c :: rest => c :: go fuel rest
  /-- What a variable reference takes after its dollar sign, and its name if it has one. -/
  reference (cs : List Char) : (List Char × Option String) × List Char :=
    let (paren, cs) := match cs with
      | '(' :: rest => (['('], rest)
      | _ => ([], cs)
    let (brace, cs) := match cs with
      | '{' :: rest => (['{'], rest)
      | _ => ([], cs)
    let name := cs.takeWhile isVariableChar
    let cs := cs.drop name.length
    let (close, cs) := match cs with
      | '}' :: rest => (['}'], rest)
      | _ => ([], cs)
    ((paren ++ brace ++ name ++ close, if name.isEmpty then none else some (String.ofList name)), cs)

/-- A plain value: the rest of the line, without a comment that follows a blank, trimmed. -/
def plainValue (line : List Char) : List Char :=
  let rec commentAt : List Char → Nat → Option Nat
    | a :: b :: rest, i => match commentAt (b :: rest) (i + 1) with
      | some j => some j
      | none => if b == '#' && isBlank a then some (i + 1) else none
    | _, _ => none
  let body := match commentAt line 0 with
    | some j => line.take j
    | none => line
  ((body.dropWhile isBlank).reverse.dropWhile isBlank).reverse

/-- The value of a statement and what follows it. -/
def statementValue (lookup : String → String) (src : List Char) :
    Except String (String × List Char) :=
  match src with
  | q :: rest =>
    if q == '"' || q == Char.ofNat 39 then
      let rec close : List Char → Char → Nat → Option Nat
        | [], _, _ => none
        | c :: more, prev, i => if c == q && prev != '\\' then some i else close more c (i + 1)
      match close rest q 1 with
      | some i =>
        let inner := (((src.take i).dropWhile (· == q)).reverse.dropWhile (· == q)).reverse
        let value := if q == '"' then expandVariables lookup (unescapeQuoted inner) else inner
        .ok (String.ofList value, src.drop (i + 1))
      | none =>
        .error ("unterminated quoted value " ++ String.ofList (src.takeWhile (· != '\n')))
    else
      let line := src.takeWhile fun c => c != '\n' && c != '\r'
      .ok (String.ofList (expandVariables lookup (plainValue line)), src.drop line.length)
  | [] => .ok ("", [])

/-- Read an environment file: its keys and values in order, a later value of a key replacing
an earlier one; variables not set earlier in the file are looked up in the environment. -/
def readDotEnv (environment : List (String × String)) (text : String) :
    Except String (List (String × String)) :=
  let cs := joinLineBreaks text.toList
  go (cs.length + 1) cs []
where
  go : Nat → List Char → List (String × String) → Except String (List (String × String))
    | 0, _, out => .ok out
    | fuel + 1, cs, out =>
      match statementStart (cs.length + 1) cs with
      | none => .ok out
      | some src => do
        let (key, rest) ← keyName src
        let lookup (name : String) : String :=
          match out.find? (·.1 == name) with
          | some (_, v) => v
          | none => ((environment.find? (·.1 == name)).map (·.2)).getD ""
        let (value, rest) ← statementValue lookup rest
        let out := if out.any (·.1 == key) then
            out.map fun (k, v) => if k == key then (k, value) else (k, v)
          else out ++ [(key, value)]
        go fuel rest out

end Conform.Cli
