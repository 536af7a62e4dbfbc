import Std.Time.DateTime.Timestamp
import SurveyTables.CommandLine.Run

/-!
# The command line program

Runs the command that the arguments ask for. It ends with status two if they are not used correctly
and with status one if the command has no answer.
-/

open SurveyTables

/-- The usage of the program. -/
def usage : String :=
  "Usage: [-v] report -d DATA -b BANNER -t TABPLAN [-o OUTPUT] [-p PROJECT] [--delimiter CHAR]\n" ++
  "              [-f csv|json] [--no-cache] [--no-checkbox]\n" ++
  "       [-v] filter -d DATA -e EQUATION [--delimiter CHAR]\n" ++
  "       [-v] likert -q QUESTION\n" ++
  "       [-v] nets -q QUESTION [-p POINTS] [-s]"

/-- The paths of the files that a command reads. -/
def inputPaths : Command → List String
  | .report c => [c.data, c.banner, c.tabplan]
  | .filter data _ _ => [data]
  | .likert question => [question]
  | .nets question _ _ => [question]

/-- The contents of a file, if it can be read. -/
def contents? (path : String) : IO (Option (List UInt8)) := do
  try
    let bytes ← IO.FS.readBinFile path
    return some bytes.data.toList
  catch _ => return none

/-- The present time. -/
def presentTime : IO Timestamp := do
  let now ← Std.Time.Timestamp.now
  return ⟨now.toSecondsSinceUnixEpoch.val, 0⟩

/-- Writes the file of a response. If that fails, the path and the cause are given back. -/
def writeFile? (file : Option (String × String)) : IO (Option (String × String)) := do
  match file with
  | none => return none
  | some (path, text) =>
    try
      IO.FS.writeFile path text
      return none
    catch e => return some (path, toString e)

/-- Reports why there is no answer. -/
def fail (e : CommandError) (cause : Option String) : IO UInt32 := do
  IO.eprint (e.report cause)
  return 1

/-- Carries out a response. -/
def respond (r : Response) : IO UInt32 := do
  match ← writeFile? r.file with
  | some (path, cause) => fail (.cannotWrite path) (some cause)
  | none =>
    IO.print r.output
    IO.eprint r.reports
    return 0

def main (args : List String) : IO UInt32 := do
  match Invocation.parse? args with
  | none =>
    IO.eprintln usage
    return 2
  | some ⟨verbose, command⟩ =>
    let files ← (inputPaths command).mapM fun path => return (path, ← contents? path)
    let outcome := command.run (← presentTime) fun path => (files.lookup path).join
    IO.eprint (outcome.log.report verbose)
    match outcome.result with
    | .ok r => respond r
    | .error e => fail e none
