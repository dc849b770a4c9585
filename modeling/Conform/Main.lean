import Conform.Cli.Run
/-!
The `typecheck` program: it gathers what a run needs from the process (arguments, the
variables the run can read, the environment file, the schema file and standard input), runs
the checker, writes its output and exits with its code.
-/

open Conform Conform.Cli

/-- Read a stream to its end. -/
partial def readStream (stream : IO.FS.Stream) (acc : ByteArray) : IO ByteArray := do
  let chunk ← stream.read 65536
  if chunk.isEmpty then return acc else readStream stream (acc ++ chunk)

/-- The names an environment file may read or set: its keys and every run of capitals, digits
and underscores in it. -/
def namesOf (text : String) : List String :=
  let keys := match readDotEnv [] text with
    | .ok entries => entries.map (·.1)
    | .error _ => []
  let words := (text.split fun c => !isVariableChar c).toList.map (·.toString)
  (keys ++ words).filter (!·.isEmpty) |>.eraseDups

/-- The variables a run reads, and those an environment file names, that are set. -/
def environmentFor (dotEnv : Option String) : IO (List (String × String)) := do
  let names := ["TYPECHECK_SCHEMA", "TYPECHECK_TYPE", "TYPECHECK_WORKERS", "TYPECHECK_LOG_LEVEL",
    "TYPECHECK_MAX_INPUT"] ++ (dotEnv.map namesOf).getD []
  names.eraseDups.filterMapM fun name => do
    return (← IO.getEnv name).map (name, ·)

/-- The text of a file, or the message of why it could not be opened. -/
def openFile (path : String) : IO (Except String String) := do
  try
    let bytes ← IO.FS.readBinFile path
    return .ok (Text.utf8Lossy bytes.toList)
  catch
    | .noFileOrDirectory .. => return .error ("open " ++ path ++ ": no such file or directory")
    | .permissionDenied .. => return .error ("open " ++ path ++ ": permission denied")
    | e => return .error ("open " ++ path ++ ": " ++ toString e)

def main (args : List String) : IO UInt32 := do
  let dotEnv := match ← openFile ".env" with
    | .ok text => some text
    | .error _ => none
  let environment ← environmentFor dotEnv
  let stdin ← readStream (← IO.getStdin) ByteArray.empty
  let inv : Invocation := { args, environment, dotEnv, stdin := stdin.toList }
  let (usageText, settings) := inv.settings
  let outcome ← match settings with
    | .error e => pure { stderr := usageText, result := .error e : Outcome }
    | .ok s => do
      let o := s.check (← openFile s.schema) inv.stdin inv.cancelled
      pure { o with stderr := usageText ++ o.stderr }
  let out ← IO.getStdout
  out.putStr outcome.stdout
  out.flush
  let err ← IO.getStderr
  err.putStr outcome.errorOutput
  err.flush
  return outcome.exitCode.toUInt32
