import EntryFilter.CommandLine.Run
import Std.Time.DateTime

/-! # The program

The outer layer reads the clock, files and lines, and prints what a run gives. -/

namespace EntryFilter.Program

/-- The time of the clock in universal time. -/
def currentTime : IO Timestamp := do
  let wallTime := Std.Time.WallTime.ofTimestamp (← Std.Time.Timestamp.now) .zero
  let ⟨date, time⟩ := Std.Time.PlainDateTime.ofWallTime wallTime
  let day := (date.year.toInt, date.month.val.toNat, date.day.val.toNat)
  let stamp := Timestamp.ofParts? day time.hour.val.toNat time.minute.val.toNat
    time.second.val.toNat time.nanosecond.val.toNat
  return stamp.getD .epoch

/-- Why a file cannot be read. -/
def reason : IO.Error → String
  | .noFileOrDirectory .. => "No such file or directory (os error 2)"
  | .permissionDenied .. => "Permission denied (os error 13)"
  | .inappropriateType .. => "Is a directory (os error 21)"
  | e => toString e

/-- The content of a file, or why it cannot be read. -/
def readOrExplain (path : String) : IO (Except String String) := do
  try return .ok (← IO.FS.readFile path)
  catch e => return .error (reason e)

/-- A reader of the files that a request needs. -/
def readNeeded (request : Request) : IO FileReader := do
  let paths := match request with
    | .run arguments => arguments.paths
    | _ => []
  let contents ← paths.mapM fun path => return (path, ← readOrExplain path)
  return fun path => (contents.lookup path).getD (.error "file not read")

/-- The path of the history. -/
def historyPath : IO String := do
  return ((← IO.getEnv "HOME").getD ".") ++ "/.fieldbase_history"

/-- Reads and answers lines until the shell ends. Only lines from a terminal enter the history. -/
partial def converse (terminal : Bool) (shell : Shell) (history : History) : IO History := do
  let output ← IO.getStdout
  if terminal then output.putStr shell.prompt
  output.flush
  let input ← (← IO.getStdin).getLine
  if input.isEmpty then
    output.putStr Shell.farewell
    return history
  let line := String.ofList ((Text.lines input.toList).headD [])
  let history := if terminal then history.add line else history
  let reaction := shell.step history line
  output.putStr reaction.output
  match reaction.next with
  | some next => converse terminal next history
  | none => return history

/-- Runs the shell, with the history of earlier runs. -/
def runShell (start : Shell) : IO Unit := do
  let path ← historyPath
  let earlier := match ← readOrExplain path with
    | .ok content => History.ofFile content
    | .error _ => []
  let terminal ← (← IO.getStdin).isTty
  IO.print start.greeting
  let history ← converse terminal start earlier
  if history != earlier then IO.FS.writeFile path history.toFile

end EntryFilter.Program

open EntryFilter in
def main (arguments : List String) : IO UInt32 := do
  let request := Arguments.read arguments
  let files ← Program.readNeeded request
  match CommandLine.launch files (← Program.currentTime) request with
  | .finished outcome =>
    IO.print outcome.output
    IO.eprint outcome.errors
    return outcome.code.toUInt32
  | .shell start =>
    Program.runShell start
    return 0
