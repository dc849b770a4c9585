import Conform.Text.Quoted
/-!
The command line of the checker: flags `-schema path`, `-type name` and `-batch`, each written
with one or two dashes, a value either after `=` or as the next argument (the flag `-batch`
takes a value only after `=`). Parsing stops at the first argument that is not a flag, and
after `--`. Asking for `-h` or `-help`, or a malformed flag, shows how to use the checker.
-/

namespace Conform.Cli

open Conform.Text

/-- The flags of a command line. -/
structure Flags where
  schema : String
  type : String
  batch : Bool := false
  deriving Repr

/-- Why a command line could not be read. -/
inductive FlagError where
  /-- Help was asked for. -/
  | help
  | bad (message : String)
  deriving Repr

/-- The message of a flag error. -/
def FlagError.message : FlagError → String
  | .help => "flag: help requested"
  | .bad m => m

/-- How to use the checker, with the defaults its text flags have. -/
def usage (schemaDefault typeDefault : String) : String :=
  let shown (d : String) := if d.isEmpty then "" else " (default " ++ quote d ++ ")"
  "Usage of typecheck:\n" ++
    "  -batch\n    \tinput is a JSON array of values validated one by one\n" ++
    "  -schema string\n    \tpath to the schema file" ++ shown schemaDefault ++ "\n" ++
    "  -type string\n    \tname of the type to validate against" ++ shown typeDefault ++ "\n"

/-- A flag value read as a boolean. -/
def readBool? (s : String) : Option Bool :=
  if ["1", "t", "T", "TRUE", "true", "True"].contains s then some true
  else if ["0", "f", "F", "FALSE", "false", "False"].contains s then some false
  else none

/-- Read the flags of a command line, starting from their defaults; each step takes at least one
argument, so the count of arguments bounds the steps. -/
def readFlags (args : List String) (flags : Flags) : Except FlagError Flags :=
  go (args.length + 1) args flags
where
  go : Nat → List String → Flags → Except FlagError Flags
  | 0, _, flags => .ok flags
  | _ + 1, [], flags => .ok flags
  | fuel + 1, arg :: rest, flags =>
    let cs := arg.toList
    if arg.utf8ByteSize < 2 || cs.head? != some '-' then .ok flags
    else if arg == "--" then .ok flags
    else
      let name := if cs[1]? == some '-' then cs.drop 2 else cs.drop 1
      match name with
      | [] | '-' :: _ | '=' :: _ => .error (.bad ("bad flag syntax: " ++ arg))
      | first :: more =>
        let key := String.ofList (first :: more.takeWhile (· != '='))
        let value : Option String :=
          if more.contains '=' then some (String.ofList ((more.dropWhile (· != '=')).drop 1))
          else none
        if key == "batch" then
          match value with
          | none => go fuel rest { flags with batch := true }
          | some v =>
            match readBool? v with
            | some b => go fuel rest { flags with batch := b }
            | none => .error (.bad ("invalid boolean value " ++ quote v ++ " for -" ++ key ++
                ": parse error"))
        else if key == "schema" || key == "type" then
          let taken : Option (String × List String) := match value, rest with
            | some v, _ => some (v, rest)
            | none, v :: after => some (v, after)
            | none, [] => none
          match taken with
          | none => .error (.bad ("flag needs an argument: -" ++ key))
          | some (v, after) =>
            go fuel after (if key == "schema" then { flags with schema := v }
              else { flags with type := v })
        else if key == "help" || key == "h" then .error .help
        else .error (.bad ("flag provided but not defined: -" ++ key))

end Conform.Cli
