import VmMonitor.Scenario.Generator

/-!
# What synthetic scenarios have in common

Tests that every generated scenario passes, whatever the random choices were: on the rise of process
ids and counters, on the ranges of the readings, and on what never varies.
-/

namespace VmMonitor.Scenario

open Generator

/-- Samples and greatest thread count of each instance. -/
def shape (s : Scenario) : List (Nat × Nat) :=
  s.instances.map fun i =>
    (i.samples.length, (i.samples.map fun x => x.threads.length).foldl max 0)

/-- A relation between neighbours holds all along a list. -/
def alongAll {α : Type} (holds : α → α → Bool) : List α → Bool
  | a :: b :: rest => holds a b && alongAll holds (b :: rest)
  | _ => true

/-- Each process id is less than five hundred above the one before. -/
def pidsRise (s : Scenario) : Bool :=
  alongAll (fun a b => a < b && b < a + 500) (firstPid :: s.instances.map (·.pid))

/-- The time of all collectors of a sample. -/
def gcTime (x : Sample) : Int := x.gc.foldl (fun n g => n + g.timeMs) 0

/-- The runs of all collectors of a sample. -/
def gcCount (x : Sample) : Int := x.gc.foldl (fun n g => n + g.count) 0

/-- The counters of a sample follow those of the one before it. -/
def follows (processors : Int) (a b : Sample) : Bool :=
  let cpu := b.cpuTimeNs - a.cpuTimeNs
  let gc := gcTime b - gcTime a
  let classes := b.loadedClasses - a.loadedClasses
  b.uptimeMs = a.uptimeMs + period
    && 0 ≤ cpu && cpu ≤ processors * period * 1000000 && cpu % 1000000 = 0
    && 0 ≤ gc && gc * 10 ≤ cpu / 1000000
    && gcCount b = gcCount a + (if 0 < gc then 1 else 0)
    && 0 ≤ classes && classes < 5
    && a.threads.length = b.threads.length
    && (a.threads.zip b.threads).all fun (t, u) => t.cpuTimeNs ≤ u.cpuTimeNs

/-- All counters rise. -/
def countersRise (s : Scenario) : Bool :=
  s.instances.all fun i => alongAll (follows i.processors) i.samples

/-- The readings of a sample are in their ranges. -/
def isInRange (x : Sample) : Bool :=
  256 * megabyte ≤ x.heap.max && x.heap.max < 4096 * megabyte
    && megabyte ≤ x.heap.used && x.heap.used < x.heap.max
    && 20 * megabyte ≤ x.nonHeap.used && x.nonHeap.used < 200 * megabyte
    && x.threads.all fun t => threadStates.contains t.state

/-- All readings are in their ranges. -/
def inRange (s : Scenario) : Bool :=
  s.instances.all fun i => processorCounts.contains i.processors && i.samples.all isInRange

/-- A sample has nothing but its readings. -/
def isPlain (heapMax : Int) (x : Sample) : Bool :=
  x.gc.map (·.name) = [collector]
    && x.heap.max = heapMax && x.heap.init = heapMax / 16 && x.heap.committed = heapMax / 2
    && x.nonHeap.init = 2 * megabyte && x.nonHeap.committed = 256 * megabyte && x.nonHeap.max = -1
    && x.threads.map (fun t => (t.id, t.name, t.lockOwner))
      = (List.range x.threads.length).map (fun (n : Nat) =>
        ((n : Int) + 1, "worker-" ++ toString (n + 1), (-1 : Int)))
    && x.threadCount.isNone && x.peakThreads.isNone && x.totalStartedThreads.isNone
    && x.deadlocked.isNone && x.monitorDeadlocked.isNone && !x.fail && !x.dead
    && x.brokenAttributes.isEmpty

/-- An instance is visible all the time, can be attached to, and says what it is. -/
def isOrdinary (i : ScenarioInstance) : Bool :=
  let heapMax := ((i.samples.head?).map (·.heap.max)).getD 0
  i.attachable && i.endpoint.isNone && i.connect = .ok && i.appearsAt = 0 && i.vanishesAt.isNone
    && i.threadCpuTimeSupported && i.lockUsageSupported
    && mainClasses.contains i.displayName
    && flavours.any (fun f => i.systemProperties = properties i.displayName f)
    && i.inputArguments = arguments i.pid heapMax
    && i.samples.all (isPlain heapMax)

/-- What never varies is there. -/
def hasFixedValues (s : Scenario) : Bool :=
  s.discoveryFailsAt.isNone && s.instances.all isOrdinary

end VmMonitor.Scenario
