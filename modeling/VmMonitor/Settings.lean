import VmMonitor.Log
import VmMonitor.Order
import VmMonitor.Text.Lowercase

/-!
# Settings

What a run is told: its pace, what it shows and of which instances. A setting that nobody gave has
a value to take its place. Settings are checked once they are complete, and the first fault found
is reported.
-/

namespace VmMonitor

/-- The settings of a run, as far as they were given. -/
structure Settings where
  /-- Seconds between two frames. -/
  delaySecs : Option Binary64 := none
  /-- Frames before the run ends; `-1` for a run without end. -/
  iterations : Option Int := none
  /-- The one instance to show. -/
  pid : Option Nat := none
  statView : Option Bool := none
  threadLimit : Option Nat := none
  threadLimitEnabled : Option Bool := none
  threadNameWidth : Option Nat := none
  /-- Cycles from one listing of instances to the next. -/
  scanInterval : Option Nat := none
  sortBy : Option SortOrder := none
  scenarioFile : Option String := none
  logLevel : Option String := none
  deriving DecidableEq

namespace Settings

/-! ### Values that are used -/

def defaultDelay : Binary64 := Binary64.ofFloat 1.0

def defaultThreadLimit : Nat := 30

def defaultThreadNameWidth : Nat := 65

/-- The settings where there is no configuration file. -/
def standard : Settings where
  delaySecs := some defaultDelay
  iterations := some (-1)
  statView := some false
  threadLimit := some defaultThreadLimit
  threadLimitEnabled := some true
  threadNameWidth := some defaultThreadNameWidth
  scanInterval := some 1
  sortBy := some .cpu
  logLevel := some "warn"

def delay (s : Settings) : Binary64 := s.delaySecs.getD defaultDelay

def frameLimit (s : Settings) : Int := s.iterations.getD (-1)

def isStatView (s : Settings) : Bool := s.statView.getD false

/-- The most threads of a report, unless all are shown. -/
def shownThreads (s : Settings) : Option Nat :=
  if s.threadLimitEnabled.getD true then some (s.threadLimit.getD defaultThreadLimit) else none

def nameWidth (s : Settings) : Nat := s.threadNameWidth.getD defaultThreadNameWidth

def interval (s : Settings) : Nat := s.scanInterval.getD 1

def order (s : Settings) : SortOrder := s.sortBy.getD .cpu

/-- The level that a name of any case stands for. -/
def levelOf (name : String) : LogLevel := (LogLevel.ofName? (lowerCase name)).getD .warn

/-! ### Checking -/

/-- What is wrong with settings. -/
inductive Fault
  | delayTooShort
  | delayTooLong
  | iterations (n : Int)
  | threadLimit
  | threadNameWidth
  | scanInterval
  | statWithoutPid
  | noScenario (path : String)
  | logLevel (name : String)
  deriving DecidableEq, Repr

/-- The wording of a fault. -/
def Fault.message : Fault → String
  | delayTooShort => "Delay cannot be set below 0.1"
  | delayTooLong => "Delay cannot be set above 86400"
  | iterations n => "Invalid iterations " ++ toString n ++ ", expected a positive count or -1"
  | threadLimit => "thread_limit must be at least 1 (or disable the limit)"
  | threadNameWidth => "thread_name_width must be at least 1"
  | scanInterval => "scan_interval must be at least 1"
  | statWithoutPid => "The stat view requires a pid"
  | noScenario path => "Scenario file not found: " ++ path
  | logLevel name => "Invalid log_level '" ++ name ++ "'"

/-- The first fault of settings, where `isThere` says which files are there. -/
def fault? (isThere : String → Bool) (s : Settings) : Option Fault :=
  let delay := s.delay.toFloat
  let n := s.frameLimit
  let level := s.logLevel.map lowerCase
  if !delay.isFinite || delay < 0.1 then some .delayTooShort
  else if 86400.0 < delay then some .delayTooLong
  else if n = 0 ∨ n < -1 then some (.iterations n)
  else if s.threadLimitEnabled.getD true ∧ s.threadLimit = some 0 then some .threadLimit
  else if s.threadNameWidth = some 0 then some .threadNameWidth
  else if s.scanInterval = some 0 then some .scanInterval
  else if s.isStatView ∧ s.pid = none then some .statWithoutPid
  else match s.scenarioFile.filter fun path => !isThere path with
    | some path => some (.noScenario path)
    | none => (level.filter fun l => (LogLevel.ofName? l).isNone).map .logLevel

end Settings

end VmMonitor
