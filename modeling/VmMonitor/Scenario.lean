import VmMonitor.Instance

/-!
# Scenarios

A scenario describes instances over time without any process behind them: when an instance is
visible, how an attempt to attach to it ends, and the counters that it reports, one sample per
cycle.
-/

namespace VmMonitor

/-- How an attempt to attach ends. -/
inductive ConnectOutcome
  | ok
  | refused
  | error
  /-- The connection opens, but nobody lives behind it. -/
  | dead
  deriving DecidableEq, Repr, Inhabited

/-- What one garbage collector reports. -/
structure GcSample where
  name : String
  timeMs : Int := 0
  count : Int := 0
  deriving DecidableEq, Repr

/-- What one thread reports. -/
structure ScenarioThread where
  id : Int
  name : String
  state : String := "RUNNABLE"
  cpuTimeNs : Int := 0
  lockOwner : Int := -1
  deriving DecidableEq, Repr

/-- What an instance reports in one cycle. -/
structure Sample where
  uptimeMs : Int := 0
  cpuTimeNs : Int := 0
  gc : List GcSample := []
  heap : MemoryUsage := {}
  nonHeap : MemoryUsage := {}
  loadedClasses : Int := 0
  threadCount : Option Int := none
  peakThreads : Option Int := none
  totalStartedThreads : Option Int := none
  threads : List ScenarioThread := []
  deadlocked : Option (List Int) := none
  monitorDeadlocked : Option (List Int) := none
  /-- Every request of the cycle fails. -/
  fail : Bool := false
  /-- The process is gone. -/
  dead : Bool := false
  /-- Attributes that cannot be read, whatever their object. -/
  brokenAttributes : List String := []
  deriving DecidableEq, Repr, Inhabited

/-- The count of threads, by default that of the listed ones. -/
def Sample.threadTotal (s : Sample) : Int := s.threadCount.getD s.threads.length

/-- An instance over time. -/
structure ScenarioInstance where
  pid : InstanceId
  displayName : String := ""
  attachable : Bool := true
  /-- Where the instance is reached; by its process id if nothing else is said. -/
  endpoint : Option Endpoint := none
  connect : ConnectOutcome := .ok
  /-- The first cycle in which the instance is visible. -/
  appearsAt : Nat := 0
  /-- The first cycle in which it is gone again. -/
  vanishesAt : Option Nat := none
  processors : Int := 1
  systemProperties : Properties := []
  inputArguments : List String := []
  threadCpuTimeSupported : Bool := true
  lockUsageSupported : Bool := true
  /-- One sample per cycle from the first visible one on; the last one repeats. -/
  samples : List Sample := []
  deriving DecidableEq

namespace ScenarioInstance

/-- Where the instance is reached. -/
def address (i : ScenarioInstance) : Endpoint := i.endpoint.getD (.localProcess i.pid)

def isVisible (cycle : Nat) (i : ScenarioInstance) : Bool :=
  i.appearsAt ≤ cycle && i.vanishesAt.all (cycle < ·)

/-- The sample of a cycle. -/
def sampleAt (cycle : Nat) (i : ScenarioInstance) : Sample :=
  (i.samples[min (cycle - i.appearsAt) (i.samples.length - 1)]?).getD {}

def descriptor (i : ScenarioInstance) : VmDescriptor where
  id := i.pid
  displayName := i.displayName
  attachable := i.attachable
  endpoint := i.address

end ScenarioInstance

/-- Instances over time. -/
structure Scenario where
  /-- The cycle from which instances can no longer be listed. -/
  discoveryFailsAt : Option Nat := none
  instances : List ScenarioInstance := []
  deriving DecidableEq

/-- Why there is no scenario in a file. -/
inductive ScenarioError
  | io (path reason : String)
  | yaml
  | json
  | duplicatePid (pid : InstanceId)
  deriving DecidableEq, Repr

namespace ScenarioError

/-- The wording of an error; what a text lacks to be a document is not worded. -/
def message : ScenarioError → String
  | io path reason => "Failed to read scenario file " ++ path ++ ": " ++ reason
  | yaml => "Invalid YAML scenario"
  | json => "Invalid JSON scenario"
  | duplicatePid pid => "Duplicate instance pid " ++ toString pid

end ScenarioError

namespace Scenario

/-- The first process id that an earlier instance has, if there is one. -/
def duplicate? : List InstanceId → List InstanceId → Option InstanceId
  | _, [] => none
  | seen, pid :: pids => if seen.contains pid then some pid else duplicate? (pid :: seen) pids

/-- Refuses two instances with one process id. -/
def validate (s : Scenario) : Except ScenarioError Scenario :=
  match duplicate? [] (s.instances.map (·.pid)) with
  | some pid => .error (.duplicatePid pid)
  | none => .ok s

/-- The instances that are visible in a cycle. -/
def visible (cycle : Nat) (s : Scenario) : List ScenarioInstance :=
  s.instances.filter (·.isVisible cycle)

end Scenario

end VmMonitor
