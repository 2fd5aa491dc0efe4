import VmMonitor.CommandLine
import VmMonitor.Console
import VmMonitor.Scenario.Replay
import VmMonitor.Scenario.Text

/-!
# The program

From arguments to output. A run is planned from the arguments and the files; a plan to monitor is
then carried out frame by frame, until the view, the number of frames or somebody else ends it, and
closes with the last reading. Everything that goes wrong ends in an exit code.
-/

namespace VmMonitor

/-- A message of the log. -/
structure LogEntry where
  level : LogLevel
  text : String

/-- What a finished program leaves behind. -/
structure Outcome where
  code : Nat
  output : String := ""
  /-- The failure that is shown to the user. -/
  report : Option String := none
  /-- What else there is to say on a run that did not begin. -/
  complaint : Option String := none
  log : List LogEntry := []

namespace Outcome

/-- The levels of the log, each once and in the order of their labels. -/
def levels (o : Outcome) : List String := sortedSet (o.log.map fun e => e.level.label)

/-- The outcome with only the messages that a limit admits. -/
def limited (limit : LogLevel) (o : Outcome) : Outcome :=
  { o with log := o.log.filter fun e => limit.admits e.level }

end Outcome

/-! ### Frames -/

/-- A run in its course. -/
structure Run where
  view : View
  replay : Replay
  /-- Frames before the run ends, if that is positive. -/
  frameLimit : Int
  /-- Seconds between two frames. -/
  delay : Binary64
  completed : Nat := 0
  failure : Option MonitorError := none
  logLimit : LogLevel
  /-- What was logged before the first frame. -/
  log : List LogEntry

namespace Run

/-- Clears the screen and starts at its upper left corner. -/
def clearScreen : String := "\x1b[2J\x1b[H"

/-- Whether a frame takes the place of the one before. A single frame does not. -/
def clears (r : Run) : Bool := r.view.clears && r.frameLimit ≠ 1

/-- Whether no frame follows. -/
def isOver (r : Run) : Bool :=
  r.failure.isSome || r.view.isOver || (0 < r.frameLimit && r.frameLimit ≤ r.completed)

/-- One frame, with a line about the machine on top where the view wants it. A frame that fails ends
the run without output. -/
def step (topBar : String) (r : Run) : String × Run :=
  match r.view.render Replay.transport Replay.directory r.replay with
  | (.error e, view, replay) => ("", { r with view, replay, failure := some e })
  | (.ok frame, view, replay) =>
    ((if r.clears then clearScreen else "") ++ (if view.hasTopBar then topBar else "") ++ frame,
      { r with view, replay := replay.tick, completed := r.completed + 1 })

/-- Frames until the run is over, or until there were `most` of them, each with the line that the
machine has for it. -/
def play (topBar : Nat → String) : Nat → Run → String × Run
  | 0, r => ("", r)
  | most + 1, r =>
    let (frame, r) := r.step (topBar r.completed)
    if r.isOver then (frame, r)
    else
      let (frames, r) := play topBar most r
      (frame ++ frames, r)

/-- The last reading, after which all sessions are closed. -/
def close (r : Run) : String × Run :=
  let reading := Overview.finalReading r.view.published
  let (view, replay) := r.view.shutdown Replay.transport r.replay
  ("Finish execution ... " ++ reading ++ "done!\n", { r with view, replay })

/-- What a run logs: attempts to attach that failed, reads, and how it ended. -/
def entries (r : Run) : List LogEntry :=
  let failed := r.view.sessions.filterMap fun s => s.failure.map fun e =>
    ⟨.warn, "Instance " ++ toString s.id ++ ": could not attach: " ++ e.message⟩
  let reads := r.replay.stats.batchedReads
  let frames := toString r.completed ++ " iterations"
  let ending := match r.failure with
    | some e => ⟨.error, "Monitoring stopped: " ++ e.message⟩
    | none =>
      if r.isOver then ⟨.debug, "Leaving poll loop after " ++ frames⟩
      else ⟨.info, "Interrupted after " ++ frames⟩
  failed ++ (if reads = 0 then [] else [⟨.trace, "Batched reads: " ++ toString reads⟩]) ++ [ending]

/-- What a run leaves behind that was shown as `output`. -/
def outcome (output : String) (r : Run) : Outcome :=
  Outcome.limited r.logLimit {
    code := if r.failure.isSome then 1 else 0
    output
    report := r.failure.map fun e => "❌ " ++ e.message
    log := r.log ++ r.entries }

/-- A whole run of at most so many frames. -/
def finish (topBar : Nat → String) (most : Nat) (r : Run) : Outcome :=
  let (frames, r) := r.play topBar most
  let (ending, r) := r.close
  r.outcome (frames ++ ending)

/-- A whole run on a machine of which the same is said on top of every frame. -/
def complete (topBar : String) (most : Nat) (r : Run) : Outcome := r.finish (fun _ => topBar) most

end Run

/-! ### Plans -/

/-- What the program is going to do. -/
inductive Plan
  | stop (o : Outcome)
  | generate (output : String) (instances samples threads : Nat)
  | hostInfo
  | monitor (r : Run)

namespace Program

def name : String := "herakles-jvmtop"

def version : String := "0.1.0"

/-- How the program is called. -/
def usage : String := "Usage: " ++ name ++ " [OPTIONS] [PID] [COMMAND]\n"

/-- What is left behind if the arguments are no command line. -/
def refuse : CommandLine.UsageFault → Outcome
  | .helpWanted => { code := 0, output := usage }
  | .versionWanted none => { code := 0, output := name ++ " " ++ version ++ "\n" }
  | .versionWanted (some command) =>
    { code := 0, output := name ++ "-" ++ command ++ " " ++ version ++ "\n" }
  | fault => { code := 2, complaint := some (fault.message ++ "\n\n" ++ usage) }

/-- The report on settings that cannot be used. -/
def invalid (fault : Settings.Fault) : Outcome :=
  { code := 1, report := some ("❌ Configuration invalid: " ++ fault.message) }

/-- Settings, or what is left behind if there are none. -/
def settings (files : Files) (a : Arguments) : Except Outcome Settings :=
  match a.settings files with
  | .ok s => .ok s
  | .error fault => .error { code := 1, complaint := some ("Error: " ++ fault.message) }

/-- Settings that can be used. -/
def validSettings (files : Files) (a : Arguments) : Except Outcome Settings := do
  let s ← settings files a
  match s.fault? files.isThere with
  | some fault => throw (invalid fault)
  | none => return s

/-- The scenario that is replayed with its path, or why there is none. -/
def scenario (files : Files) (s : Settings) : Except String (Scenario × String) :=
  match s.scenarioFile with
  | none => .error "No management transport available, pass --scenario <FILE>"
  | some path =>
    match Scenario.load files path with
    | .ok scenario => .ok (scenario, path)
    | .error e => .error e.message

/-- The view that settings ask for, with the message about it. -/
def view (s : Settings) (replay : Replay) : Except MonitorError (View × String) × Replay :=
  match s.pid with
  | none =>
    (.ok (.overview (Monitor.new s.order s.interval),
      "Starting overview sorted by " ++ s.order.name), replay)
  | some pid =>
    match DetailMonitor.«open» Replay.transport Replay.directory pid s.shownThreads (!s.isStatView)
      replay with
    | (.error e, replay) => (.error e, replay)
    | (.ok m, replay) =>
      if s.isStatView then
        (.ok (.stat m false, "Starting stat view for pid " ++ toString pid), replay)
      else
        (.ok (.detail m s.nameWidth s.shownThreads false,
          "Starting detail view for pid " ++ toString pid), replay)

/-- A run from settings that can be used. -/
def start (files : Files) (a : Arguments) (s : Settings) : Except Outcome Run :=
  let limit := a.logLimit s
  let log : List LogEntry :=
    [⟨.info, "Logging initialized with level: " ++ limit.name⟩, ⟨.info, "Starting " ++ name⟩]
  let failed (log : List LogEntry) (message : String) : Except Outcome Run :=
    .error (Outcome.limited limit { code := 1, log, complaint := some ("Error: " ++ message) })
  match scenario files s with
  | .error message => failed log message
  | .ok (scenario, path) =>
    let log := log ++
      [⟨.info, "Replaying " ++ toString scenario.instances.length ++ " instances from " ++ path⟩]
    match view s (Replay.new scenario) with
    | (.error e, _) => failed log e.message
    | (.ok (view, message), replay) =>
      .ok {
        view, replay, frameLimit := s.frameLimit, delay := s.delay, logLimit := limit
        log := log ++ [⟨.debug, message⟩] }

/-- What the arguments ask for. Settings are shown or checked before anything else. -/
def planned (files : Files) (a : Arguments) : Except Outcome Plan :=
  if a.checkConfig then do
    let _ ← validSettings files a
    return .stop { code := 0, output := "✅ Configuration is valid\n" }
  else if a.showConfig then do
    let s ← settings files a
    return .stop { code := 0, output := s.write (a.configFormat.getD .yaml) ++ "\n" }
  else match a.command with
    | some (.generate output instances samples threads) =>
      .ok (.generate output instances samples threads)
    | some .hostInfo => .ok .hostInfo
    | none => do
      let s ← validSettings files a
      return .monitor (← start files a s)

/-- The plan for arguments. -/
def plan (files : Files) (args : List String) : Plan :=
  match Arguments.read args with
  | .error fault => .stop (refuse fault)
  | .ok a =>
    match planned files a with
    | .ok p => p
    | .error o => .stop o

/-- The text of a scenario in the format of a file. -/
def scenarioText (path : String) (s : Scenario) : String :=
  if Path.extension? path = some "json" then Json.pretty 0 s.encode else Yaml.write s.encode

/-- What is left behind when a scenario was to be written. -/
def written (files : Files) (path : String) (samples : Nat) (s : Scenario) : Outcome :=
  if files.isWritable path then
    { code := 0
      output := "✅ Generated scenario: " ++ toString s.instances.length ++ " instances with "
        ++ toString (max samples 1) ++ " samples in " ++ path ++ "\n" }
  else { code := 1, complaint := some ("Error: cannot write " ++ path) }

end Program

end VmMonitor
