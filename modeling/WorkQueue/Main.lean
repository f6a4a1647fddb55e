import Std.Time.DateTime.Timestamp
import WorkQueue.CommandLine.Run
import WorkQueue.Location.Text

/-!
# The program

The command line around `CommandLine.plan`: it reads the environment and the clock, looks at the
files that the plan's target can come to, writes those that a run has changed, and prints what the
run came to. The directory that the store is kept in is locked while a command works. The server
sweeps until it is stopped.
-/

namespace WorkQueue.Program

open CommandLine Location

/-- The environment of the process. -/
def environment : IO Environment := do
  let settings ← Config.variableNames.mapM fun name => do return (name, ← IO.getEnv name)
  return fun name => (settings.lookup name).join

/-- The current instant. -/
def clock : IO Instant := do
  let timestamp ← Std.Time.Timestamp.now
  return .ofSinceEpoch timestamp.toNanosecondsSinceUnixEpoch.val

/-- The directory that the program was started in. -/
def home : IO Path := do
  return Path.names (Text.writeUtf8 ((← IO.getEnv "PWD").getD ""))

/-- Do something with a path as a text, if it is one. -/
def withText {α : Type} (path : Path) (otherwise : α) (work : String → IO α) : IO α :=
  match Text.readUtf8? path.bytes with
  | some text => work text
  | none => pure otherwise

/-- Open what is at a path for reading, if that can be done. -/
def handle? (text : String) : IO (Option IO.FS.Handle) := do
  try return some (← IO.FS.Handle.mk text .read)
  catch _ => return none

/-- What there is at a path. -/
def look (path : Path) : IO PathEntry :=
  withText path .absent fun text => do
    if (← handle? (text ++ "/.")).isSome then return .directory
    match ← handle? text with
    | none => return .absent
    | some handle =>
        return .file (.ofText (← handle.readToEnd))

/-- The files that a target can come to, as they are. -/
def filesAround (target : Target) : IO Files := do
  let home ← home
  let paths := target.paths home
  return { home, entries := ← paths.mapM fun path => do return (path, ← look path) }

/-- Write the files that have been changed. -/
def writeChanged (before after : Files) : IO Unit := do
  for path in (before.entries.map Prod.fst).eraseDups do
    match after.entry path with
    | .file content =>
        unless before.entry path = .file content do
          withText path () fun text => IO.FS.writeFile text content.text
    | _ => pure ()

/-- Do something while a directory is locked, if it is there. -/
def withLock {α : Type} (directory : Path) (work : IO α) : IO α := do
  match ← withText directory none fun text => handle? (text ++ "/.") with
  | none => work
  | some handle =>
      handle.lock
      let answer ← work
      handle.unlock
      return answer

/-- Print what a run came to, and answer its exit code. -/
def report : RunResult → IO UInt32
  | .usage => do
      IO.eprintln "usage: txq serve | sweep | queue | send | receive | peek"
      return 2
  | .ran exit output errors => do
      IO.print output
      IO.eprint errors
      return exit.toUInt32

/-- Do what is planned, once. -/
def once (plan : Plan) : IO UInt32 := do
  let directory := ((plan.target.paths (← home)).getLastD []).dropLast
  let result ← withLock directory do
    let files ← filesAround plan.target
    let (result, after) := plan.runIn (← clock) files
    writeChanged files after
    return result
  report result

/-- Do what is planned again and again, so many milliseconds apart. -/
partial def forever (plan : Plan) (pause : UInt32) : IO UInt32 := do
  let _ ← once plan
  IO.sleep pause
  forever plan pause

/-- Run the program with the words after its name. -/
def run (words : List String) : IO UInt32 := do
  match plan words (← environment) with
  | .error result => report result
  | .ok plan =>
      match plan.command with
      | .serve => forever plan (1000 * plan.config.sweepIntervalSeconds).toUInt32
      | _ => once plan

end WorkQueue.Program

/-- The entry point. -/
def main (words : List String) : IO UInt32 :=
  WorkQueue.Program.run words
