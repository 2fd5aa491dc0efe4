import Std.Async.Signal
import Std.Async.System
import Std.Async.Timer
import Std.Time
import VmMonitor.Host.Machine
import VmMonitor.Program
import VmMonitor.Scenario.Generator

/-!
# The program on a real system

Looks at files, asks for the machine and the time, shows frames at their pace, and writes what is
left behind. What to do, and what is shown, is decided elsewhere.
-/

namespace VmMonitor.Main

/-! ### Files -/

/-- What is at a path: nothing, something that cannot be read as text, or a text. Nothing is behind a
name that is too long, or behind a file. -/
def look (path : String) : IO (Option (Option String)) := do
  try
    let content ← IO.FS.readFile path
    return some (some content)
  catch e =>
    match e with
    | .noFileOrDirectory .. => return none
    | .invalidArgument .. => return none
    | .inappropriateType (some _) .. => return none
    | _ => return some none

/-- The files at some paths and on the way to them, as they are now. -/
def filesAt (paths : List String) : IO Files := do
  let all := paths.flatMap fun path => path :: Files.stations [] (splitAll '/' path.toList)
  let seen ← all.mapM fun path => do return (path, ← look path)
  let found (path : String) : Option (Option String) := (seen.lookup path).join
  return {
    isThere := fun path => (found path).isSome
    content := fun path => (found path).join
    isWritable := fun _ => true }

/-- The files that a run with these arguments depends on. The configuration file is looked at first,
because it may name the scenario. -/
def filesFor (args : List String) : IO Files :=
  match Arguments.read args with
  | .error _ => filesAt []
  | .ok a => do
    let configs := Settings.places ++ a.config.toList
    let files ← filesAt configs
    match a.settings files with
    | .error _ => return files
    | .ok s => filesAt (configs ++ s.scenarioFile.toList)

/-! ### The machine -/

def text? (path : String) : IO (Option String) := do return (← look path).join

def machine : IO Machine := do
  let kernel ← try
      let os ← Std.Async.System.getSystemInfo
      pure (some (Kernel.mk os.name os.release os.machine))
    catch _ => pure none
  let processors ← try
      pure (← Std.Async.System.getCPUInfo).size
    catch _ => pure 1
  return .ofTexts processors kernel (← text? "/proc/loadavg") (← text? "/proc/uptime")

/-- The time of day. -/
def clock : IO String := do
  let t ← Std.Time.PlainTime.now
  let two (n : Int) : String := Cell.twoDigits n
  return two t.hour.val ++ ":" ++ two t.minute.val ++ ":" ++ two t.second.val

def topBar : IO String := do
  return (← machine).topBar Program.version (← clock)

/-! ### Output -/

def put (s : String) : IO Unit := do
  let out ← IO.getStdout
  out.putStr s
  out.flush

def logLines (entries : List LogEntry) : IO Unit :=
  entries.forM fun e => IO.eprintln (padLeft 5 e.level.label ++ " " ++ e.text)

/-- Writes what is left behind and gives the exit code. -/
def leave (o : Outcome) : IO UInt32 := do
  put o.output
  logLines o.log
  (o.complaint.toList ++ o.report.toList).forM fun line => IO.eprintln line
  return UInt32.ofNat o.code

/-! ### Frames -/

open Std.Async in
/-- Waits before the next frame; the answer is whether somebody wants the run to end. -/
def wait (signals : List Signal.Waiter) (seconds : Float) : IO Bool := do
  let pause := Std.Time.Millisecond.Offset.ofNat (seconds * 1000.0).toUInt64.toNat
  let waking : Async Bool := do
    let rested : Selectable Bool := .case (← Selector.sleep pause) fun _ => pure false
    let ended := signals.map fun w => Selectable.case w.selector fun _ => pure true
    Selectable.one (rested :: ended).toArray
  waking.block

/-- Frames at their pace, until the run is over or somebody ends it. -/
partial def frames (signals : List Std.Async.Signal.Waiter) (r : Run) : IO Run := do
  let (frame, r) := r.step (← topBar)
  put frame
  if r.isOver || (← wait signals r.delay.toFloat) then return r
  frames signals r

/-- A whole run. Whoever ends it early still gets the last reading. -/
def monitor (r : Run) : IO UInt32 := do
  let signals ← [Std.Async.Signal.sigint, .sigterm].mapM fun s => Std.Async.Signal.Waiter.mk s true
  let r ← frames signals r
  let (reading, r) := r.close
  leave (r.outcome reading)

/-! ### Synthetic scenarios -/

/-- A number nobody foresees. -/
def seed : IO Nat := do
  return (← IO.getRandomBytes 8).toList.foldl (fun n b => n * 256 + b.toNat) 0

/-- Writes a synthetic scenario to a file. -/
def generate (path : String) (instances samples threads : Nat) : IO UInt32 := do
  match (Generator.generate NumberSource.congruential instances samples threads).run (← seed) with
  | none => return 1
  | some (s, _) =>
    let isWritable ← try
        IO.FS.writeFile path (Program.scenarioText path s)
        pure true
      catch _ => pure false
    let files : Files :=
      { isThere := fun _ => false, content := fun _ => none, isWritable := fun _ => isWritable }
    leave (Program.written files path samples s)

/-- Carries out a plan. -/
def run : Plan → IO UInt32
  | .stop o => leave o
  | .generate path instances samples threads => generate path instances samples threads
  | .hostInfo => do leave { code := 0, output := (← machine).report }
  | .monitor r => monitor r

end VmMonitor.Main

def main (args : List String) : IO UInt32 := do
  VmMonitor.Main.run (VmMonitor.Program.plan (← VmMonitor.Main.filesFor args) args)
