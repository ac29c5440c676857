import Std.Time.Format
import SpecTest.CommandLine.Console

/-!
The program: it runs the tests of a specification, or lists them.
-/

namespace SpecTest.CommandLine

abbrev SystemTask := ReaderT OutputSettings IO

def ioErrorOf : IO.Error → IoError
  | .noFileOrDirectory .. => .notFound
  | .alreadyExists .. => .alreadyExists
  | .inappropriateType _ 20 _ => .notDirectory
  | .inappropriateType _ 21 _ => .isDirectory
  | e => .other (toString e)

def attempt (action : IO α) : SystemTask (Except IoError α) := do
  match ← action.toBaseIO with
  | .ok a => return .ok a
  | .error e => return .error (ioErrorOf e)

def systemName : IO String := do
  match ← (IO.FS.readFile ⟨"/proc/sys/kernel/hostname"⟩).toBaseIO with
  | .ok text => return text.trimAscii.toString
  | .error _ => return "localhost"

def localTime : IO Timestamp := do
  let t ← Std.Time.PlainDateTime.now
  return ⟨t.year.toInt, t.month.toNat, t.day.toNat, t.hour.toNat, t.minute.toNat, t.second.toNat,
    t.nanosecond.toNat⟩

instance : Host SystemTask where
  readText p := attempt (IO.FS.readFile ⟨p.text⟩)
  isThere p := do
    if p.text = "" then return false
    return ← ((← IO.currentDir) / p.text).pathExists
  removeTree p := attempt (IO.FS.removeDirAll ⟨p.text⟩)
  createTree p := if p.text = "" then return .ok () else attempt (IO.FS.createDirAll ⟨p.text⟩)
  writeText p text := attempt (IO.FS.writeFile ⟨p.text⟩ text)
  workDirName := return (← IO.currentDir).fileName
  hostname := systemName
  now := localTime
  -- A scripted call is looked up and runs nothing, so that it takes no millisecond.
  callMillis := return fun _ => 0
  log e := do
    let output ← read
    if output.verbosity.shows e then IO.eprintln (logLine (output.color.isColored false) e)
  notice text := do IO.eprintln (noticeLine ((← read).color.isColored false) text)

def usage : String :=
  "Usage: specrun [-v] [-q] [--color auto|always|never] test|list TRANSCRIPT [OPTIONS]\n\n" ++
  "Options of both commands:\n  -c, --config FILE\n\n" ++
  "Options of test:\n  --report-dir DIR\n  --coverage\n  --coverage-dir DIR\n" ++
  "  --coverage-source-dir DIR\n  --test-source-dir DIR\n  --launch-dir DIR\n" ++
  "  --launch-generation all|failing|none\n  --launch-project NAME\n" ++
  "  --module-prefix TEXT\n  --operation-pattern PATTERN"

def reportUsage : UsageError → IO Unit
  | .displayHelp => IO.println usage
  | .displayVersion text => IO.println text
  | e => IO.eprintln ("error: " ++ e.name ++ "\n\n" ++ usage)

end SpecTest.CommandLine

open SpecTest.CommandLine in
def main (args : List String) : IO UInt32 := do
  match Invocation.ofArgs args with
  | .error e =>
    reportUsage e
    return e.exitStatus.toUInt32
  | .ok invocation =>
    match ← (invocation.perform.run : SystemTask _).run invocation.output with
    | .ok text =>
      IO.print text
      return 0
    | .error failure =>
      IO.eprintln (errorLine failure)
      return failure.exitStatus.toUInt32
