import VmMonitor.Discovery
import VmMonitor.Threads

/-!
# Monitoring one instance

One instance is tracked with its threads. A cycle ends in a report if the instance is attached and
all further readings work; it tells a failed reading from an instance that is not attached.
-/

namespace VmMonitor

/-- What a cycle tells about an attached instance. -/
structure DetailReport where
  row : InstanceRow
  mainClass : Option String
  arguments : List String
  inputArguments : List String
  vendor : Option String
  vmName : Option String
  javaVersion : Option String
  peakThreadCount : Int
  totalStartedThreads : Int
  threads : ThreadReport

/-- How a cycle ends. -/
inductive DetailCycle
  | report (r : DetailReport)
  | fetchFailed
  | notAttached

/-- The main class and the arguments of a command line: its words between single blanks, a word
that is empty counts. -/
def splitCommand : Option String → Option String × List String
  | none => (none, [])
  | some command =>
    match (splitAll ' ' command.toList).map String.ofList with
    | [] => (none, [])
    | main :: arguments => (some main, arguments)

/-- All that the monitor of one instance holds between two cycles. -/
structure DetailMonitor where
  registry : Registry
  vm : TrackedVm
  tracker : ThreadTracker := {}
  threadLimit : Option Nat
  withThreads : Bool
  published : List InstanceRow := []

namespace DetailMonitor

/-- The description of an instance that no listing has; it cannot be attached to. -/
def unlisted (id : InstanceId) : VmDescriptor where
  id := id
  displayName := ""
  attachable := false
  endpoint := .localProcess id

variable {ω : Type} (t : Transport ω)

/-- Looks the instance up in a listing and tracks it. -/
def «open» (directory : Directory ω) (id : InstanceId) (threadLimit : Option Nat)
    (withThreads : Bool) (w : ω) : Except MonitorError DetailMonitor × ω :=
  match directory.list w with
  | (.error e, w) => (.error e, w)
  | (.ok visible, w) =>
    let d := (visible.find? fun vm => vm.id = id).getD (unlisted id)
    let (vm, world) := TrackedVm.attach t d ⟨{}, w⟩
    (.ok { registry := world.registry, vm, threadLimit, withThreads }, world.peers)

/-- The row of the instance as it stands. -/
def row (m : DetailMonitor) : InstanceRow := m.vm.row m.registry

/-- The readings of a cycle beyond the update: thread counts, and the threads if they are shown. -/
def readThreads {σ : Type} (src : Source σ) (m : DetailMonitor) :
    Exchange (ThreadTracker × σ) (Int × Int × ThreadReport) := do
  let peak ← src.peakThreadCount.beside ThreadTracker
  let started ← src.totalStartedThreads.beside ThreadTracker
  if m.withThreads then
    let metrics := m.vm.metrics
    let threads ← ThreadTracker.sample src m.threadLimit metrics.deltaUptimeMs
      metrics.processCpuTimeNs
    return (peak, started, threads)
  else return (peak, started, {})

/-- The report of a cycle. -/
def report (m : DetailMonitor) (peak started : Int) (threads : ThreadReport) : DetailReport :=
  let property (key : String) := m.vm.gauges.runtime.bind (RuntimeInfo.property? key)
  let (mainClass, arguments) := splitCommand (property "sun.java.command")
  { row := m.row
    mainClass
    arguments
    inputArguments := (m.vm.gauges.runtime.map (·.inputArguments)).getD []
    vendor := property "java.vendor"
    vmName := property "java.vm.name"
    javaVersion := property "java.version"
    peakThreadCount := peak
    totalStartedThreads := started
    threads }

/-- One cycle: an update, whose row is published, and the further readings if it left the instance
attached and well. -/
def cycle (m : DetailMonitor) (w : ω) : DetailCycle × DetailMonitor × ω :=
  let (_, vm, world) := m.vm.update t ⟨m.registry, w⟩
  let m := { m with vm, registry := world.registry }
  let m := { m with published := [m.row] }
  match vm.state m.registry with
  | .attached =>
    let readings (src : Source (Cache × ω)) :
        StateM (Cache × ω) (Except ConnectionError (Int × Int × ThreadReport) × ThreadTracker) :=
      fun cw =>
        let (result, (tracker, cw)) := (m.readThreads src).run (m.tracker, cw)
        ((result, tracker), cw)
    match vm.read t readings world with
    | (some (.ok (peak, started, threads), tracker), world) =>
      let m := { m with tracker, registry := world.registry }
      (.report (m.report peak started threads), m, world.peers)
    | (some (.error _, tracker), world) =>
      (.fetchFailed, { m with tracker, registry := world.registry }, world.peers)
    | (none, world) => (.notAttached, { m with registry := world.registry }, world.peers)
  | .attachedUpdateError => (.fetchFailed, m, world.peers)
  | _ => (.notAttached, m, world.peers)

/-- Closes the session. -/
def shutdown (m : DetailMonitor) (w : ω) : DetailMonitor × ω :=
  let (registry, w) := m.registry.closeAll t w
  ({ m with registry }, w)

end DetailMonitor

end VmMonitor
