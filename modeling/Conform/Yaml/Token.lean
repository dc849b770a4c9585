/-!
The tokens of YAML text and the faults met while reading it. A mark is a place in the text
(character index, line and column, all counted from zero); every token carries the marks of
its first character and of the character after it. A fault names what was being read, where
that started, what went wrong and where.
-/

namespace Conform.Yaml

/-- A place in the text: character index, line and column, all from zero. -/
structure Mark where
  index : Nat := 0
  line : Nat := 0
  column : Nat := 0
  deriving Repr, Inhabited, DecidableEq

/-- How a scalar was written. -/
inductive ScalarStyle where
  | plain
  | singleQuoted
  | doubleQuoted
  | literal
  | folded
  deriving Repr, Inhabited, DecidableEq

/-- What a token is, with the text it carries. -/
inductive TokenKind where
  | streamStart
  | streamEnd
  | versionDirective (major minor : Nat)
  | tagDirective (handle pfx : String)
  | documentStart
  | documentEnd
  | blockSequenceStart
  | blockMappingStart
  | blockEnd
  | flowSequenceStart
  | flowSequenceEnd
  | flowMappingStart
  | flowMappingEnd
  | blockEntry
  | flowEntry
  | key
  | value
  | alias (name : String)
  | anchor (name : String)
  | tag (handle suffix : String)
  | scalar (text : String) (style : ScalarStyle)
  deriving Repr, Inhabited

/-- A token and the marks around it. -/
structure Token where
  kind : TokenKind
  start : Mark
  stop : Mark
  deriving Repr, Inhabited

/-- Which stage of reading refused the text. -/
inductive Stage where
  | reader
  | scanner
  | parser
  | composer
  deriving Repr, DecidableEq, Inhabited

/-- A fault in YAML text. -/
structure Fault where
  stage : Stage
  context : String := ""
  contextMark : Mark := {}
  problem : String
  problemMark : Mark := {}
  deriving Repr, Inhabited

/-- The line a fault is reported at, counted from one, or zero for none: the line of the
context's start if that is past the first line, else the line of the problem; a fault found
while splitting the text into tokens counts from one, the others from zero. -/
def Fault.line (f : Fault) : Nat :=
  let raw := if f.contextMark.line != 0 then f.contextMark.line else f.problemMark.line
  if raw == 0 then 0 else if f.stage == .scanner then raw + 1 else raw

/-- The message of a fault: `yaml: `, the line when there is one, and the problem. -/
def Fault.message (f : Fault) : String :=
  let whereText := if f.line == 0 then "" else "line " ++ toString f.line ++ ": "
  let problem := if f.problem.isEmpty then "unknown problem parsing YAML content" else f.problem
  "yaml: " ++ whereText ++ problem

end Conform.Yaml
