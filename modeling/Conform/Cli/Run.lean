import Conform.Batch
import Conform.Cli.DotEnv
import Conform.Cli.Flags
import Conform.Schema.Load
import Conform.Input.Json
import Conform.Json.Writer
/-! The checker: it reads a schema file and a JSON value, or an array of them in batch mode,
validates by a type of the schema and writes one line per value, the JSON of its failures or
`null`; its settings come from the environment, an environment file and the command line.
-/

namespace Conform.Cli

open Conform.Schema Conform.Text

/-- What the checker is run with. -/
structure Invocation where
  args : List String
  environment : List (String × String)
  /-- The environment file, if there is one. -/
  dotEnv : Option String := none
  stdin : List UInt8 := []
  /-- Whether the run is cancelled before it starts. -/
  cancelled : Bool := false

/-- Why a run failed. -/
inductive RunError where
  | config (message : String)
  | flags (e : FlagError)
  | missingArguments
  | logLevel (text : String)
  | openSchema (message : String)
  | load (e : LoadError)
  | typeNotFound (name path : String)
  | inputTooLarge (limit : Int)
  | input (e : InputError)
  | notArray
  | cancelled
  /-- A value is invalid. -/
  | invalid
  /-- The run stopped short with a message, as a crash. -/
  | crash (message : String)

/-- The message of a run error. -/
def RunError.message : RunError → String
  | .config m => "parsing config: " ++ m
  | .flags e => e.message
  | .missingArguments => "both a schema and a type are required"
  | .logLevel t => "parsing log level: unrecognized level: " ++ quote t
  | .openSchema m => "opening schema file: " ++ m
  | .load e => e.message
  | .typeNotFound name path => "type " ++ quote name ++ " not found in " ++ path
  | .inputTooLarge limit => "input exceeds " ++ toString limit ++ " bytes: " ++ InputError.bodyTooLarge.message
  | .input e => e.message
  | .notArray => "batch input must be a JSON array"
  | .cancelled => "context canceled"
  | .invalid => "value is invalid"
  | .crash m => m

/-- What the checker is configured with. -/
structure Settings where
  schema : String
  type : String
  workers : Int
  logLevel : String
  maxInput : Int
  batch : Bool := false

/-- The environment a run sees: its own variables, and those of the environment file that it
does not set; an unreadable environment file adds nothing. -/
def Invocation.effectiveEnvironment (inv : Invocation) : List (String × String) :=
  match inv.dotEnv.map (readDotEnv inv.environment) with
  | some (.ok entries) =>
    inv.environment ++ entries.filter fun (k, _) => !inv.environment.any (·.1 == k)
  | _ => inv.environment

/-- The value of a variable; its default when it is unset or empty. -/
def settingValue (environment : List (String × String)) (key : String) (default : String := "") :
    String :=
  match environment.find? (·.1 == key) with
  | some (_, v) => if v.isEmpty then default else v
  | none => default

/-- A whole number of some bits from a variable, or the message of why it is not one. -/
def readSetting (field kind : String) (bits : Nat) (text : String) : Except String Int :=
  match Number.readInt text 10 bits with
  | .ok n => .ok n
  | .error fault =>
    .error ("parse error on field " ++ quote field ++ " of type " ++ quote kind ++
      ": strconv.ParseInt: parsing " ++ quote text ++ ": " ++ fault.reason)

/-- The settings the environment gives, or the messages of all the variables that do not
read. -/
def environmentSettings (environment : List (String × String)) : Except RunError Settings :=
  let workers := readSetting "Workers" "int" 32 (settingValue environment "TYPECHECK_WORKERS" "4")
  let maxInput := readSetting "MaxInput" "int64" 64
    (settingValue environment "TYPECHECK_MAX_INPUT" "10485760")
  let problems := (match workers with | .error m => [m] | .ok _ => []) ++
    (match maxInput with | .error m => [m] | .ok _ => [])
  match workers, maxInput with
  | .ok w, .ok m =>
    .ok { schema := settingValue environment "TYPECHECK_SCHEMA"
          type := settingValue environment "TYPECHECK_TYPE"
          workers := w
          logLevel := settingValue environment "TYPECHECK_LOG_LEVEL" "info"
          maxInput := m }
  | _, _ => .error (.config ("env: " ++ "; ".intercalate problems))

/-- The settings of a run and what reading the command line wrote to the error output: how to
use the checker, after the message of a malformed flag. -/
def Invocation.settings (inv : Invocation) : String × Except RunError Settings :=
  match environmentSettings inv.effectiveEnvironment with
  | .error e => ("", .error e)
  | .ok s =>
    let help := usage s.schema s.type
    match readFlags inv.args ⟨s.schema, s.type, false⟩ with
    | .error .help => (help, .error (.flags .help))
    | .error e => (e.message ++ "\n" ++ help, .error (.flags e))
    | .ok f =>
      let s := { s with schema := f.schema, type := f.type, batch := f.batch }
      if s.schema.isEmpty || s.type.isEmpty then ("", .error .missingArguments)
      else ("", .ok s)

/-- The log levels, by name in lower or upper case; the empty name is `info`. -/
def isLogLevel (text : String) : Bool :=
  let names := ["debug", "info", "", "warn", "warning", "error", "dpanic", "panic", "fatal"]
  names.contains text || names.any (·.toUpper == text) ||
    names.contains (String.ofList (text.toList.map Char.toLower))

/-- The input read up to a limit: more than the limit is refused. -/
def readInput (stdin : List UInt8) (limit : Int) : Except RunError (List UInt8) :=
  let taken := takeCount (pastLimit limit) stdin
  if (taken.length : Int) > limit then .error (.inputTooLarge limit) else .ok taken

/-- What a run wrote to its output, and how it ended. -/
structure Outcome where
  stdout : String := ""
  stderr : String := ""
  result : Except RunError Unit := .ok ()

/-- The line written for a value's failures. -/
def resultLine (r : Option Failures) : String :=
  (Failures.toJson r).write JsonStyle.web ++ "\n"

/-- Validate the value of a run outside batch mode; a rule that stops the validation crashes the
run. -/
def validateOne (t : DataType) (v : Value) : Except RunError (List (Option Failures)) :=
  match (t.check v).run false with
  | .ok (r, _) => .ok [r]
  | .error m => .error (.crash m)

/-- Validate the values of a batch run by a batch of the settings' workers: a run cancelled
before it starts is refused, and a rule that stops the validation crashes the run. -/
def validateBatch (t : DataType) (values : List Value) (workers : Int) (cancelled : Bool)
    : Except RunError (List (Option Failures)) :=
  match Batch.validateInOrder t values workers (if cancelled then some .canceled else none) with
  | .ok (.ok results) => .ok results
  | .ok (.error _) => .error .cancelled
  | .error m => .error (.crash m)

/-- The rest of a run once the settings are known, given the schema file's text or why it
could not be opened. -/
def Settings.check (s : Settings) (schemaFile : Except String String) (stdin : List UInt8)
    (cancelled : Bool) : Outcome :=
  let results : Except RunError (List (Option Failures)) := do
    if !isLogLevel s.logLevel then throw (.logLevel s.logLevel)
    let text ← match schemaFile with
      | .ok text => pure text
      | .error m => throw (.openSchema m)
    let schema ← match Schema.load [] text with
      | .ok schema => pure schema
      | .error e@(.missingDeclaration) | .error e@(.badDecimalBound ..) | .error e@(.endlessNesting) =>
        throw (.crash e.message)
      | .error e => throw (.load e)
    let some t := schema.get? s.type | throw (.typeNotFound s.type s.schema)
    let input ← readInput stdin s.maxInput
    let value ← match decodeJson (utf8Lossy input) with
      | .ok v => pure v
      | .error e => throw (.input e)
    if s.batch then
      let .list items := value | throw .notArray
      validateBatch t items s.workers cancelled
    else validateOne t value
  match results with
  | .error e => { result := .error e }
  | .ok rs =>
    { stdout := String.join (rs.map resultLine)
      result := if rs.any Option.isSome then .error .invalid else .ok () }

/-- A whole run, reading the schema file with a given reader. -/
def Invocation.run (inv : Invocation) (readFile : String → Except String String) : Outcome :=
  match inv.settings with
  | (stderr, .error e) => { stderr, result := .error e }
  | (stderr, .ok s) =>
    let o := s.check (readFile s.schema) inv.stdin inv.cancelled
    { o with stderr := stderr ++ o.stderr }

/-- The exit code of a run: 0 when every value is valid, 1 when one is invalid, 2 otherwise. -/
def Outcome.exitCode (o : Outcome) : Nat :=
  match o.result with
  | .ok () => 0
  | .error .invalid => 1
  | .error _ => 2

/-- The error output of the program: what the run wrote there, then the message of a failure
other than an invalid value, or the first line of a crash. -/
def Outcome.errorOutput (o : Outcome) : String :=
  match o.result with
  | .ok () | .error .invalid => o.stderr
  | .error (.crash m) => o.stderr ++ "panic: " ++ m ++ "\n"
  | .error e => o.stderr ++ e.message ++ "\n"

end Conform.Cli
