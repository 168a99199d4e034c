import TestDispatch.Cli.Run
/-!
# The program

Reads the files of the working directory that the command line may name, and the secrets the
environment holds, runs the command line with `Cli.run`, and prints what it printed. A failed
command is reported on the error stream, and the program exits with status 1.
-/

open TestDispatch.Cli

/-- The names of files in the working directory that an argument may stand for: the argument,
and what follows the `=` of a flag. -/
def fileCandidates (args : List String) : List String :=
  let values := args.flatMap fun a =>
    match a.splitOn "=" with
    | _ :: rest@(_ :: _) => [a, "=".intercalate rest]
    | _ => [a]
  values.filterMap fun a =>
    match Surroundings.pathParts a with
    | [name] => if a.startsWith "/" then none else some name
    | _ => none

/-- The environment variables that settings read. -/
def secretNames : List String :=
  ["TESTFLEET_LOCK_READ_KEY", "TESTFLEET_LOCK_WRITE_KEY", "TESTFLEET_TRACKER_TOKEN"]

/-- The files of the working directory that can be read, among some names. -/
def readFiles (names : List String) : IO (List (String × String)) := do
  let mut files := []
  for name in names.eraseDups do
    try
      let text ← IO.FS.readFile name
      files := files ++ [(name, text)]
    catch _ => pure ()
  return files

/-- Runs the program on its command line. -/
def main (args : List String) : IO UInt32 := do
  let files ← readFiles (fileCandidates args)
  let mut env := []
  for name in secretNames do
    if let some v ← IO.getEnv name then env := env ++ [(name, v)]
  let outcome := run { files, env } args
  let out ← IO.getStdout
  out.putStr outcome.stdout
  out.flush
  match outcome.error with
  | none => return 0
  | some e =>
    let err ← IO.getStderr
    err.putStrLn ("Error: " ++ e.message)
    err.putStrLn e.message
    return 1
