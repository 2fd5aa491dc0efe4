import VmMonitor.Discovery
import VmMonitor.Scenario

/-!
# Replaying a scenario

A replay stands in for the processes that a scenario describes: it lists its instances, opens
connections to them and answers requests from the sample of the current cycle. Its clock moves only
when it is told to. Every request is counted.
-/

namespace VmMonitor

/-- How many requests of each kind were received. -/
structure ReplayStats where
  connects : Nat := 0
  batchedReads : Nat := 0
  singleReads : Nat := 0
  invocations : Nat := 0
  queries : Nat := 0
  livenessChecks : Nat := 0

/-- All requests on connections. -/
def ReplayStats.totalRequests (s : ReplayStats) : Nat :=
  s.batchedReads + s.singleReads + s.invocations + s.queries + s.livenessChecks

/-- An open connection to an instance. -/
structure ReplayConnection where
  target : ScenarioInstance
  /-- Cleared by the first liveness check that finds nobody. -/
  alive : Bool
  closed : Bool := false

/-- A scenario in the middle of its course. -/
structure Replay where
  scenario : Scenario
  cycle : Nat := 0
  connections : List ReplayConnection := []
  stats : ReplayStats := {}

namespace Replay

def new (scenario : Scenario) : Replay := { scenario }

/-- Moves the clock on by one cycle. -/
def tick (r : Replay) : Replay := { r with cycle := r.cycle + 1 }

/-! ### Listing and opening -/

/-- The instances of the current cycle. -/
def list (r : Replay) : Except MonitorError (List VmDescriptor) :=
  if r.scenario.discoveryFailsAt.any (· ≤ r.cycle) then
    .error (.discovery ("instance listing unavailable at cycle " ++ toString r.cycle))
  else .ok ((r.scenario.visible r.cycle).map (·.descriptor))

/-- The first visible instance that is reached at an endpoint. -/
def target? (endpoint : Endpoint) (r : Replay) : Option ScenarioInstance :=
  r.scenario.instances.find? fun i => i.address = endpoint ∧ i.isVisible r.cycle

/-- What an attempt to open a connection meets: an instance and whether anybody lives there. -/
def meet (endpoint : Endpoint) (r : Replay) : Except ConnectionError (ScenarioInstance × Bool) :=
  let name := endpoint.connectionName
  match r.target? endpoint with
  | none => .error (.io ("no such process: " ++ name))
  | some i =>
    match i.connect with
    | .ok => .ok (i, true)
    | .dead => .ok (i, false)
    | .refused => .error (.refused name)
    | .error => .error (.io ("attach to " ++ name ++ " failed"))

def connect (endpoint : Endpoint) (r : Replay) : Except ConnectionError ConnectionId × Replay :=
  let r := { r with stats := { r.stats with connects := r.stats.connects + 1 } }
  match r.meet endpoint with
  | .error e => (.error e, r)
  | .ok (target, alive) =>
    (.ok r.connections.length, { r with connections := r.connections ++ [⟨target, alive, false⟩] })

/-! ### Answers -/

/-- The sample that requests are answered from. -/
def current (c : ReplayConnection) (cycle : Nat) : Except ConnectionError Sample :=
  if c.closed then .error .closed
  else if !c.target.isVisible cycle then
    .error (.io ("process " ++ toString c.target.pid ++ " is gone"))
  else
    let sample := c.target.sampleAt cycle
    if sample.fail then .error (.io ("request to " ++ toString c.target.pid ++ " failed"))
    else .ok sample

/-- The collector that an object name stands for. -/
def collectorName? (object : ObjectName) : Option String :=
  if object.domain = ObjectName.memory.domain ∧ object.keyProperty? "type" = some "GarbageCollector"
  then object.keyProperty? "name"
  else none

/-- The value of an attribute of the platform's own objects; `none` if the object is none of them,
and no value if it has no such attribute. -/
def platformValue (i : ScenarioInstance) (s : Sample) (object : ObjectName) (name : String) :
    Option (Option AttributeValue) :=
  if object = .runtime then some <|
    match name with
    | "Uptime" => some (.long s.uptimeMs)
    | "InputArguments" => some (.texts i.inputArguments)
    | "SystemProperties" => some (.properties i.systemProperties)
    | _ => none
  else if object = .operatingSystem then some <|
    match name with
    | "AvailableProcessors" => some (.long i.processors)
    | "ProcessCpuTime" => some (.long s.cpuTimeNs)
    | _ => none
  else if object = .memory then some <|
    match name with
    | "HeapMemoryUsage" => some (.usage s.heap)
    | "NonHeapMemoryUsage" => some (.usage s.nonHeap)
    | _ => none
  else if object = .classLoading then some <|
    match name with
    | "TotalLoadedClassCount" => some (.long s.loadedClasses)
    | _ => none
  else if object = .threading then some <|
    match name with
    | "ThreadCount" => some (.long s.threadTotal)
    | "PeakThreadCount" => some (.long (s.peakThreads.getD s.threadTotal))
    | "TotalStartedThreadCount" => some (.long (s.totalStartedThreads.getD s.threadTotal))
    | "AllThreadIds" => some (.longs (s.threads.map (·.id)))
    | "ThreadCpuTimeSupported" => some (.bool i.threadCpuTimeSupported)
    | "SynchronizerUsageSupported" => some (.bool i.lockUsageSupported)
    | _ => none
  else none

/-- The value of an attribute of a collector. -/
def collectorValue (g : GcSample) (name : String) : Option AttributeValue :=
  match name with
  | "CollectionTime" => some (.long g.timeMs)
  | "CollectionCount" => some (.long g.count)
  | _ => none

/-- Reads one attribute from a sample. -/
def readValue (i : ScenarioInstance) (s : Sample) (object : ObjectName) (name : String) :
    Except ConnectionError AttributeValue :=
  let value (v : Option AttributeValue) : Except ConnectionError AttributeValue :=
    match v with
    | some v => .ok v
    | none => .error (.unreadable object name "no such attribute")
  if s.brokenAttributes.contains name then .error (.unreadable object name "read failed")
  else match platformValue i s object name with
    | some v => value v
    | none =>
      match (collectorName? object).bind fun gc => s.gc.find? fun g => g.name = gc with
      | some g => value (collectorValue g name)
      | none => .error (.notRegistered object)

/-- Reads several attributes; one that fails is left out, but an unknown object fails the whole. -/
def readValues (i : ScenarioInstance) (s : Sample) (object : ObjectName) :
    List String → Except ConnectionError (List (String × AttributeValue))
  | [] => .ok []
  | name :: names =>
    match readValue i s object name with
    | .ok v => (readValues i s object names).map ((name, v) :: ·)
    | .error (.notRegistered o) => .error (.notRegistered o)
    | .error _ => readValues i s object names

/-- The names of all objects: the platform's own and one per collector. -/
def registeredNames (s : Sample) : List ObjectName :=
  [.memory, .runtime, .threading, .classLoading, .operatingSystem]
    ++ s.gc.map fun g => .garbageCollector g.name

/-- The thread that an operation is about. -/
def threadArgument (operation : String) : List AttributeValue → Except ConnectionError Int
  | .long tid :: _ => .ok tid
  | _ => .error (.typeMismatch (operation ++ " thread id"))

/-- Runs an operation of the threading object; no other object has any. -/
def invoke (s : Sample) (object : ObjectName) (operation : String) (params : List AttributeValue) :
    Except ConnectionError AttributeValue :=
  let ids (ids : Option (List Int)) : AttributeValue :=
    match ids with
    | some ids => .longs ids
    | none => .null
  if object ≠ .threading then .error (.unsupported object operation)
  else match operation with
    | "getThreadCpuTime" => do
      let tid ← threadArgument operation params
      let thread := s.threads.find? fun t => t.id = tid
      return .long ((thread.map (·.cpuTimeNs)).getD (-1))
    | "getThreadInfo" => do
      let tid ← threadArgument operation params
      match s.threads.find? fun t => t.id = tid with
      | none => return .null
      | some t => return .thread ⟨t.id, t.name, t.state, t.lockOwner⟩
    | "findDeadlockedThreads" => .ok (ids s.deadlocked)
    | "findMonitorDeadlockedThreads" => .ok (ids s.monitorDeadlocked)
    | _ => .error (.unsupported object operation)

/-- The answer of a connection to a request. -/
def answer (c : ReplayConnection) (cycle : Nat) :
    (r : Request) → Except ConnectionError r.Answer
  | .single object name => do readValue c.target (← current c cycle) object name
  | .batch object names => do
    return Table.ofList (← readValues c.target (← current c cycle) object names)
  | .query pattern => do
    return (registeredNames (← current c cycle)).filter pattern.isMatch
  | .invoke object operation params => do invoke (← current c cycle) object operation params

/-- Counts a request. -/
def ReplayStats.count (stats : ReplayStats) : Request → ReplayStats
  | .single _ _ => { stats with singleReads := stats.singleReads + 1 }
  | .batch _ _ => { stats with batchedReads := stats.batchedReads + 1 }
  | .query _ => { stats with queries := stats.queries + 1 }
  | .invoke _ _ _ => { stats with invocations := stats.invocations + 1 }

/-- Answers a request on a connection; one that was never opened counts as closed. -/
def ask (id : ConnectionId) (request : Request) : Exchange Replay request.Answer := fun r =>
  let r := { r with stats := ReplayStats.count r.stats request }
  match r.connections[id]? with
  | some c => (answer c r.cycle request, r)
  | none => (.error .closed, r)

/-! ### Liveness -/

/-- Whether anybody lives behind a connection in a cycle. -/
def livesIn (c : ReplayConnection) (cycle : Nat) : Bool :=
  !c.closed && c.alive && c.target.isVisible cycle && !(c.target.sampleAt cycle).dead

def isAlive (id : ConnectionId) (r : Replay) : Bool × Replay :=
  let r := { r with stats := { r.stats with livenessChecks := r.stats.livenessChecks + 1 } }
  match r.connections[id]? with
  | none => (false, r)
  | some c =>
    let lives := livesIn c r.cycle
    let c := if c.closed then c else { c with alive := lives }
    (lives, { r with connections := r.connections.set id c })

def close (id : ConnectionId) (r : Replay) : Replay :=
  match r.connections[id]? with
  | none => r
  | some c => { r with connections := r.connections.set id { c with closed := true } }

/-- A replay as the other side of all connections. -/
def transport : Transport Replay where
  connect := connect
  isAlive := isAlive
  close := close
  ask := ask

/-- A replay as the one that lists instances. -/
def directory : Directory Replay := ⟨fun r => (r.list, r)⟩

end Replay

end VmMonitor
