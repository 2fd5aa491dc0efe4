import VmMonitor.Number.Counter
import VmMonitor.Peer.Telemetry

/-!
# Busiest threads

In every cycle the CPU time of each thread is compared with the cycle before. Threads that both
cycles know are ranked by the difference, the largest first, and by their number where it is equal.
The times are taken over only when all of them were read.
-/

namespace VmMonitor

/-- CPU times in nanoseconds by thread. -/
abbrev ThreadTimes := Table Int Int

/-- Ranked differences, and whether there may be more threads than shown. -/
structure ThreadRanking where
  entries : List (Int × Int) := []
  truncated : Bool := false
  deriving DecidableEq, Repr

/-- Ranks the threads that both cycles know. -/
def rankThreads (previous current : ThreadTimes) (limit : Option Nat) : ThreadRanking :=
  let deltas := current.filterMap fun (tid, now) =>
    (Table.get? tid previous).map fun before => (tid, Counter.sub now before)
  let ranked := deltas.mergeSort fun a b => b.2 ≤ a.2
  match limit with
  | none => ⟨ranked, false⟩
  | some n => ⟨ranked.take n, n ≤ current.length⟩

/-- A thread as it is shown. -/
structure ThreadRow where
  tid : Int
  name : String
  state : String
  cpuPercent : Binary64
  totalCpuPercent : Binary64
  /-- The owner of the lock that the thread waits for. -/
  blockedBy : Option Int

/-- The threads of one cycle. -/
structure ThreadReport where
  rows : List ThreadRow := []
  truncated : Bool := false
  cpuTimeSupported : Bool := false

/-- A thread's share of the time between two cycles. -/
def cyclePercent (threadNs uptimeMs : Int) : Binary64 :=
  if uptimeMs = 0 then Binary64.zero
  else Binary64.ofFloat (nearestFloat threadNs / 1000000.0 / nearestFloat uptimeMs * 100.0)

/-- A thread's share of all the CPU time of its process. -/
def lifetimePercent (threadNs processNs : Int) : Binary64 :=
  if processNs = 0 then Binary64.zero
  else Binary64.ofFloat (nearestFloat threadNs / nearestFloat processNs * 100.0)

/-- The thread times of the last complete reading. -/
structure ThreadTracker where
  retained : ThreadTimes := []

namespace ThreadTracker

/-- Ranks against the retained times and retains the current ones. -/
def rank (current : ThreadTimes) (limit : Option Nat) (tr : ThreadTracker) :
    ThreadRanking × ThreadTracker :=
  (rankThreads tr.retained current limit, ⟨current⟩)

variable {σ : Type} (src : Source σ)

/-- The CPU times of the given threads. -/
def readTimes : List Int → ThreadTimes → Exchange σ ThreadTimes
  | [], times => return times
  | tid :: tids, times => do
    let time ← src.threadCpuTime tid
    readTimes tids (Table.insert tid time times)

/-- The rows of ranked threads; a thread that is gone has none. -/
def readRows (totals : ThreadTimes) (uptimeMs processNs : Int) :
    List (Int × Int) → Exchange σ (List ThreadRow)
  | [] => return []
  | (tid, delta) :: entries => do
    let info ← src.threadInfo? tid
    let rows ← readRows totals uptimeMs processNs entries
    match info with
    | none => return rows
    | some info =>
      let row : ThreadRow := {
        tid
        name := info.name
        state := info.state
        cpuPercent := cyclePercent delta uptimeMs
        totalCpuPercent := lifetimePercent ((Table.get? tid totals).getD 0) processNs
        blockedBy := if 0 ≤ info.lockOwner then some info.lockOwner else none }
      return row :: rows

/-- One reading of all threads. Without support for CPU times there is nothing to rank. -/
def sample (limit : Option Nat) (uptimeMs processNs : Int) :
    Exchange (ThreadTracker × σ) ThreadReport := do
  if ← src.threadCpuTimeSupported.beside ThreadTracker then
    let tids ← src.threadIds.beside ThreadTracker
    let current ← (readTimes src tids []).beside ThreadTracker
    let (tracker, s) ← get
    let (ranking, tracker) := tracker.rank current limit
    set (tracker, s)
    let rows ← (readRows src current uptimeMs processNs ranking.entries).beside ThreadTracker
    return { rows, truncated := ranking.truncated, cpuTimeSupported := true }
  else return {}

end ThreadTracker

end VmMonitor
