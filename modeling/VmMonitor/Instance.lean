import VmMonitor.Instance.VersionLabel
import VmMonitor.Metrics
import VmMonitor.Session.Registry
import VmMonitor.Text.Align

/-!
# Tracked instances

An instance is described by whoever lists it, and tracked from then on: attached once, updated in
every cycle, and shown as a row. An update reads a complete set of counters before it takes them in,
so a failure never mixes two samples; what is read after that is taken in piece by piece.
-/

namespace VmMonitor

/-- An instance as it is listed. -/
structure VmDescriptor where
  id : InstanceId
  displayName : String
  attachable : Bool
  endpoint : Endpoint
  deriving DecidableEq, Inhabited

/-- The last `width` characters of the first word of a command line. -/
def entryPointOf (width : Nat) (displayName : String) : String :=
  rightmost width (String.ofList (displayName.toList.takeWhile (· ≠ ' ')))

def VmDescriptor.entryPoint (width : Nat) (d : VmDescriptor) : String :=
  entryPointOf width d.displayName

/-- What does not change while an instance runs. -/
structure RuntimeInfo where
  systemProperties : Properties
  inputArguments : List String
  vmVersion : String
  osUser : Option String
  cpuInHundredNanos : Bool

namespace RuntimeInfo

def property? (key : String) (r : RuntimeInfo) : Option String :=
  Table.get? key r.systemProperties

/-- Reads the properties first and the arguments after them. -/
def fetch {σ : Type} (src : Source σ) : Exchange σ RuntimeInfo := do
  let systemProperties ← src.systemProperties
  let inputArguments ← src.inputArguments
  return {
    systemProperties
    inputArguments
    vmVersion := VersionLabel.shortOf systemProperties
    osUser := Table.get? "user.name" systemProperties
    cpuInHundredNanos := VersionLabel.countsHundredNanos systemProperties }

end RuntimeInfo

/-- What a console shows of an instance. -/
structure InstanceRow where
  id : InstanceId
  displayName : String
  state : SessionState
  metrics : Metrics
  vmVersion : Option String
  osUser : Option String

/-! ### One update -/

/-- All that was read of an instance so far. -/
structure Gauges where
  metrics : Metrics := Metrics.initial
  runtime : Option RuntimeInfo := none

namespace Gauges

/-- A complete set of counters, read in one go. -/
structure Counters where
  processors : Int
  sample : RawSample
  gcCount : Int
  heap : MemoryUsage
  nonHeap : MemoryUsage

variable {σ : Type} (src : Source σ)

/-- The total time and count over all collectors. -/
def collections : List ObjectName → Int × Int → Exchange σ (Int × Int)
  | [], totals => return totals
  | c :: cs, (time, count) => do
    let t ← src.collectionTime c
    let n ← src.collectionCount c
    collections cs (Counter.add time t, Counter.add count n)

/-- Reads a complete set of counters. -/
def readCounters (cpuInHundredNanos : Bool) : Exchange σ Counters := do
  let processors ← src.availableProcessors
  let uptimeMs ← src.uptime
  let cpu ← src.processCpuTime
  let cpuTimeNs := if cpuInHundredNanos then Counter.mul cpu 100 else cpu
  let (gcTimeMs, gcCount) ← collections src (← src.garbageCollectors) (0, 0)
  let heap ← src.heap
  let nonHeap ← src.nonHeap
  return { processors, sample := { uptimeMs, cpuTimeNs, gcTimeMs }, gcCount, heap, nonHeap }

/-- The metrics with a complete set of counters taken in. -/
def takeCounters (m : Metrics) (c : Counters) : Metrics :=
  { m.apply c.sample c.processors with
    gcCount := c.gcCount
    heap := c.heap
    nonHeap := c.nonHeap }

/-- Whether any thread waits in a deadlock, of locks of any kind if they can be asked for. -/
def readDeadlocks (lockUsage : Bool) : Exchange σ Bool := do
  let any (ids : Option (List Int)) : Bool := ids.any fun ids => !ids.isEmpty
  let ofLocks ← if lockUsage then src.deadlockedThreads? else pure none
  let ofMonitors ← src.monitorDeadlockedThreads?
  return any ofLocks || any ofMonitors

/-- Whether CPU time comes in units of a hundred nanoseconds; the first time, this takes the
constants of the runtime in. -/
def learnRuntime : Exchange (Gauges × σ) Bool := do
  match (← get).1.runtime with
  | some info => return info.cpuInHundredNanos
  | none =>
    let info ← (RuntimeInfo.fetch src).beside Gauges
    modify fun (g, s) => ({ g with runtime := some info }, s)
    return info.cpuInHundredNanos

/-- Changes the metrics. -/
def modifyMetrics (f : Metrics → Metrics) : Exchange (Gauges × σ) Unit :=
  modify fun (g, s) => ({ g with metrics := f g.metrics }, s)

/-- One full reading: constants, counters, classes, threads and deadlocks. What was taken in before
a failure stays. -/
def sample (lockUsage : Bool) : Exchange (Gauges × σ) Unit := do
  let cpuInHundredNanos ← learnRuntime src
  let counters ← (readCounters src cpuInHundredNanos).beside Gauges
  modifyMetrics fun m => takeCounters m counters
  let classes ← src.totalLoadedClasses.beside Gauges
  modifyMetrics fun m => { m with loadedClasses := classes }
  let threads ← src.threadCount.beside Gauges
  modifyMetrics fun m => { m with threadCount := threads }
  let deadlocks ← (readDeadlocks src lockUsage).beside Gauges
  modifyMetrics fun m => { m with deadlocks := deadlocks }

/-- What a failed update is reported as. -/
def failure (id : InstanceId) (state : SessionState) (count : Nat) (e : ConnectionError) :
    MonitorError :=
  if state = .detached then .permanentDetach id
  else match e with
    | .unreadable object name _ => .partialAttributeFailure object name
    | e => .transientUpdateFailure id count e

variable {ω : Type} (t : Transport ω)

/-- The reading of an attached and living session; without a connection it counts as failed. -/
def readSession (g : Gauges) (s : Session) (w : ω) :
    Except ConnectionError Unit × Gauges × Session × ω :=
  let readings (src : Source (Cache × ω)) :
      StateM (Cache × ω) (Except ConnectionError Unit × Gauges) := fun cw =>
    let (result, (g, cw)) := (sample src s.lockUsage).run (g, cw)
    ((result, g), cw)
  match s.flush.read t readings w with
  | (some (result, g), s, w) => (result, g, s, w)
  | (none, s, w) => (.error .closed, g, s, w)

/-- One update of an instance over its session. Only an attached session is updated; one whose
other side is gone is over. -/
def update (id : InstanceId) (g : Gauges) (s : Session) (w : ω) :
    Except MonitorError Unit × Gauges × Session × ω :=
  if s.state.isAttached then
    match s.isLive t w with
    | (false, s, w) => (.error (.permanentDetach id), g, s, w)
    | (true, s, w) =>
      match readSession t g s w with
      | (.ok (), g, s, w) => (.ok (), g, s.apply t .updateSucceeded w)
      | (.error e, g, s, w) =>
        let count := g.metrics.updateErrors + 1
        let g := { g with metrics := { g.metrics with updateErrors := count } }
        let (s, w) := s.apply t (.updateFailed count) w
        (.error (failure id s.state count e), g, s, w)
  else (.ok (), g, s, w)

end Gauges

/-! ### Tracked instances -/

/-- The registry of the sessions beside the state of the peers. -/
structure World (ω : Type) where
  registry : Registry
  peers : ω

/-- Runs an operation on a session; nothing happens if there is no such session. -/
def World.onSession {ω α : Type} (i : SessionId) (default : α)
    (f : Session → ω → α × Session × ω) (world : World ω) : α × World ω :=
  match world.registry.session? i with
  | none => (default, world)
  | some s =>
    let (a, s, peers) := f s world.peers
    (a, ⟨world.registry.put i s, peers⟩)

/-- An instance with its session and all that was read of it. -/
structure TrackedVm where
  descriptor : VmDescriptor
  session : SessionId
  gauges : Gauges := {}

namespace TrackedVm

def id (vm : TrackedVm) : InstanceId := vm.descriptor.id

def metrics (vm : TrackedVm) : Metrics := vm.gauges.metrics

/-- The state of the session of an instance. -/
def state (r : Registry) (vm : TrackedVm) : SessionState :=
  match r.session? vm.session with
  | some s => s.state
  | none => .init

/-- What a console shows of an instance. -/
def row (r : Registry) (vm : TrackedVm) : InstanceRow where
  id := vm.id
  displayName := vm.descriptor.displayName
  state := vm.state r
  metrics := vm.metrics
  vmVersion := vm.gauges.runtime.map (·.vmVersion)
  osUser := vm.gauges.runtime.bind (·.osUser)

variable {ω : Type} (t : Transport ω)

/-- Updates an instance. -/
def update (vm : TrackedVm) (world : World ω) : Except MonitorError Unit × TrackedVm × World ω :=
  let ((result, gauges), world) := world.onSession vm.session (.ok (), vm.gauges) fun s w =>
    let (result, gauges, s, w) := vm.gauges.update t vm.id s w
    ((result, gauges), s, w)
  (result, { vm with gauges }, world)

/-- Tracks an instance: connects the session registered for it, unless the instance cannot be
attached to, and updates it at once if that worked. -/
def attach (d : VmDescriptor) (world : World ω) : TrackedVm × World ω :=
  let (i, registry) := world.registry.attach d.id d.endpoint
  let (_, world) := World.onSession i () (fun s w =>
    ((), if d.attachable then (s.connect t w).2 else s.markNotAttachable t w))
    ⟨registry, world.peers⟩
  let vm : TrackedVm := { descriptor := d, session := i }
  if vm.state world.registry = .attached then (vm.update t world).2 else (vm, world)

/-- Runs readings on the connection of an attached instance. -/
def read {α : Type} (readings : Source (Cache × ω) → StateM (Cache × ω) α) (vm : TrackedVm)
    (world : World ω) : Option α × World ω :=
  world.onSession vm.session none fun s w =>
    if s.state.isAttached then s.read t readings w else (none, s, w)

end TrackedVm

end VmMonitor
