import VmMonitor.Scenario.Text

/-!
# Synthetic scenarios

A scenario of any size whose counters rise from sample to sample as those of a busy process do. The
random choices come from a source of numbers: a draw from a range takes the next number and folds it
into the range, so every choice that a range admits is made by some source. A draw from an empty
range fails.
-/

namespace VmMonitor

/-- A source of numbers. -/
structure NumberSource (ρ : Type) where
  next : ρ → Nat × ρ

/-- Numbers that follow from each other: a multiplier and an increment, modulo a power of two, of
which the upper digits are given out. -/
def NumberSource.congruential : NumberSource Nat where
  next seed :=
    let seed := (seed * 6364136223846793005 + 1442695040888963407) % twoTo 64
    (seed / twoTo 24, seed)

/-- A choice that depends on a source of numbers; it fails if it draws from an empty range. -/
abbrev Draw (ρ α : Type) := StateT ρ Option α

namespace Draw

variable {ρ : Type} (src : NumberSource ρ)

/-- A number from `low` on and below `high`. -/
def below (low high : Int) : Draw ρ Int := fun r =>
  if low < high then
    let (n, r) := src.next r
    some (low + (n % (high - low).toNat : Nat), r)
  else none

/-- A number from `low` to `high`. -/
def upTo (low high : Int) : Draw ρ Int := below src low (high + 1)

/-- A member of a list. -/
def oneOf {α : Type} (xs : List α) : Draw ρ α := do
  let i ← below src 0 xs.length
  match xs[i.toNat]? with
  | some a => return a
  | none => failure

end Draw

namespace Generator

def megabyte : Int := 1024 * 1024

/-- Milliseconds from one sample to the next. -/
def period : Int := 1000

def mainClasses : List String :=
  ["org.apache.catalina.startup.Bootstrap start",
    "com.example.shop.ShopApplication --server.port=8080",
    "org.elasticsearch.bootstrap.Elasticsearch -d",
    "kafka.Kafka config/server.properties",
    "org.apache.zookeeper.server.quorum.QuorumPeerMain conf/zoo.cfg",
    "com.example.batch.ImportJob --input /data/in"]

/-- Vendor, name and version of a runtime. -/
def flavours : List (String × String × String) :=
  [("Oracle Corporation", "Java HotSpot(TM) 64-Bit Server VM", "1.8.0_292-b10"),
    ("Eclipse Adoptium", "OpenJDK 64-Bit Server VM", "17.0.8+7"),
    ("Azul Systems, Inc.", "OpenJDK 64-Bit Server VM", "11.0.20+8-LTS")]

def processorCounts : List Int := [1, 2, 4, 8]

def threadStates : List String := ["RUNNABLE", "WAITING", "TIMED_WAITING", "BLOCKED"]

def collector : String := "G1 Young Generation"

/-- The system properties of an instance. -/
def properties (mainClass : String) (flavour : String × String × String) : Properties :=
  Table.ofList
    [("java.vendor", flavour.1), ("java.vm.name", flavour.2.1),
      ("java.runtime.version", flavour.2.2), ("java.version", flavour.2.2), ("user.name", "app"),
      ("sun.java.command", mainClass)]

/-- The arguments of the runtime of an instance. -/
def arguments (pid : Nat) (heapMax : Int) : List String :=
  ["-Xmx" ++ toString (heapMax.tdiv megabyte) ++ "m", "-XX:+UseG1GC",
    "-Dapp.instance=" ++ toString pid]

/-- What rises from one sample to the next. -/
structure Counters where
  uptimeMs : Int
  cpuTimeNs : Int
  gcTimeMs : Int
  gcCount : Int
  loadedClasses : Int
  threadTimes : List Int

variable {ρ : Type} (src : NumberSource ρ)

/-- The counters before the first sample. -/
def start (threads : Nat) : Draw ρ Counters := do
  let uptimeMs ← Draw.below src 60000 86400000
  let cpuTimeNs := (← Draw.below src 1 uptimeMs) * 1000000
  let gcTimeMs ← Draw.below src 0 (uptimeMs.tdiv 100)
  let gcCount ← Draw.below src 0 1000
  let loadedClasses ← Draw.below src 2000 20000
  let threadTimes ← (List.replicate threads ()).mapM fun _ => Draw.below src 0 (max cpuTimeNs 1)
  return { uptimeMs, cpuTimeNs, gcTimeMs, gcCount, loadedClasses, threadTimes }

/-- One thread in a sample: its time and its state. -/
def thread (busyMs : Int) (threads : Nat) (time : Int) : Draw ρ (Int × String) := do
  let spent ← Draw.upTo src 0 (max busyMs 1)
  let state ← Draw.oneOf src threadStates
  return (time + (spent * 1000000).tdiv (max threads 1 : Nat), state)

/-- The counters of the next sample, with the states of the threads. -/
def advance (processors : Int) (c : Counters) : Draw ρ (Counters × List String) := do
  let busyMs ← Draw.upTo src 0 (period * processors)
  let gcMs ← Draw.upTo src 0 (busyMs.tdiv 10)
  let classes ← Draw.below src 0 5
  let threads ← c.threadTimes.mapM (thread src busyMs c.threadTimes.length)
  return (
    { uptimeMs := c.uptimeMs + period
      cpuTimeNs := c.cpuTimeNs + busyMs * 1000000
      gcTimeMs := c.gcTimeMs + gcMs
      gcCount := if 0 < gcMs then c.gcCount + 1 else c.gcCount
      loadedClasses := c.loadedClasses + classes
      threadTimes := threads.map (·.1) },
    threads.map (·.2))

/-- The threads of a sample, numbered from `id` on. -/
def numbered : Nat → List (Int × String) → List ScenarioThread
  | _, [] => []
  | id, (time, state) :: rest =>
    { id := id, name := "worker-" ++ toString id, state, cpuTimeNs := time }
      :: numbered (id + 1) rest

/-- The sample that shows counters. -/
def sample (heapMax heapUsed nonHeapUsed : Int) (c : Counters) (states : List String) : Sample where
  uptimeMs := c.uptimeMs
  cpuTimeNs := c.cpuTimeNs
  gc := [{ name := collector, timeMs := c.gcTimeMs, count := c.gcCount }]
  heap := {
    init := heapMax.tdiv 16, used := heapUsed, committed := heapMax.tdiv 2, max := heapMax }
  nonHeap := {
    init := 2 * megabyte, used := nonHeapUsed, committed := 256 * megabyte, max := -1 }
  loadedClasses := c.loadedClasses
  threads := numbered 1 (c.threadTimes.zip states)

/-- As many samples as asked for, each from the counters of the one before. -/
def samples (heapMax processors : Int) : Nat → Counters → Draw ρ (List Sample)
  | 0, _ => return []
  | n + 1, c => do
    let (c, states) ← advance src processors c
    let heapUsed ← Draw.below src megabyte heapMax
    let nonHeapUsed ← Draw.below src (20 * megabyte) (200 * megabyte)
    let rest ← samples heapMax processors n c
    return sample heapMax heapUsed nonHeapUsed c states :: rest

/-- An instance with at least one sample. -/
def generateInstance (pid sampleCount threads : Nat) : Draw ρ ScenarioInstance := do
  let mainClass ← Draw.oneOf src mainClasses
  let flavour ← Draw.oneOf src flavours
  let processors ← Draw.oneOf src processorCounts
  let heapMax := (← Draw.below src 256 4096) * megabyte
  let c ← start src threads
  let samples ← samples src heapMax processors (max sampleCount 1) c
  return {
    pid
    displayName := mainClass
    processors
    systemProperties := properties mainClass flavour
    inputArguments := arguments pid heapMax
    samples }

/-- As many instances as asked for, with process ids above `pid`. -/
def generateInstances (sampleCount threads : Nat) : Nat → Nat → Draw ρ (List ScenarioInstance)
  | 0, _ => return []
  | n + 1, pid => do
    let step ← Draw.below src 1 500
    let pid := pid + step.toNat
    let i ← generateInstance src pid sampleCount threads
    let rest ← generateInstances sampleCount threads n pid
    return i :: rest

/-- The process id that the first instance is above. -/
def firstPid : Nat := 4000

/-- A scenario of a size. -/
def generate (instances sampleCount threads : Nat) : Draw ρ Scenario := do
  return { instances := ← generateInstances src sampleCount threads instances firstPid }

end Generator

end VmMonitor
