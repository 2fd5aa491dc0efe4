import VmMonitor.AttributeValue
import VmMonitor.Number.Counter

/-!
# Metrics of an instance

Counters as they were last read, the baseline they are compared with, and what the comparison gave.
A sample is compared with the one before it only if that one had counted anything and this one has
spent time in garbage collection; the baseline moves in either case.

Loads are shares of the time of all processors, capped at 99. The share is stated once for any kind
of number; what a console shows is its binary64 reading.
-/

namespace VmMonitor

/-- The share of `busy` in the time of all processors, at most 99; none if nothing was done or no
time passed. -/
def cappedShare {α : Type} [OfNat α 0] [OfNat α 99] [LT α] [LE α] [DecidableLT α] [DecidableLE α]
    [Mul α] [Div α] (elapsed busy processors : α) : α :=
  if busy ≤ 0 ∨ (elapsed ≤ 0 ∧ 0 ≤ elapsed) then 0
  else
    let share := busy / (elapsed * processors)
    if share < 99 then share else 99

/-- A load in machine numbers. -/
def floatLoad (elapsed busy : Float) (processors : Int) : Float :=
  cappedShare elapsed busy (nearestFloat processors)

/-- The load that a console shows. -/
def shownLoad (elapsed busy processors : Int) : Binary64 :=
  Binary64.ofFloat (floatLoad (nearestFloat elapsed) (nearestFloat busy) processors)

/-- The load in exact numbers. -/
def exactLoad (elapsed busy processors : Int) : Rat :=
  cappedShare (elapsed : Rat) (busy : Rat) (processors : Rat)

/-- The counters of one reading that loads are made of. -/
structure RawSample where
  uptimeMs : Int
  cpuTimeNs : Int
  gcTimeMs : Int
  deriving DecidableEq, Repr

/-- The metrics of an instance, with loads of a kind of number. -/
structure MetricsOf (α : Type) where
  uptimeMs : Int := 0
  processCpuTimeNs : Int := 0
  gcTimeMs : Int := 0
  gcCount : Int := 0
  heap : MemoryUsage := {}
  nonHeap : MemoryUsage := {}
  loadedClasses : Int := 0
  threadCount : Int := 0
  deadlocks : Bool := false
  processors : Int := 1
  prevUptimeMs : Int := -1
  prevCpuTimeNs : Int := -1
  prevGcTimeMs : Int := 0
  deltaUptimeMs : Int := 0
  deltaCpuTimeMs : Int := 0
  deltaGcTimeMs : Int := 0
  cpuLoad : α
  gcLoad : α
  /-- Failed updates since the instance is tracked. -/
  updateErrors : Nat := 0

/-- The metrics that are shown. -/
abbrev Metrics := MetricsOf Binary64

/-- Nothing was read yet. -/
def Metrics.initial : Metrics := { cpuLoad := Binary64.zero, gcLoad := Binary64.zero }

instance : Inhabited Metrics := ⟨Metrics.initial⟩

/-- One millisecond in nanoseconds. -/
def nanosPerMilli : Int := 1000000

/-- Takes a sample in: the counters are replaced, compared with the baseline where that is of use,
and become the baseline. -/
def MetricsOf.applySample {α : Type} (load : Int → Int → Int → α) (m : MetricsOf α) (s : RawSample)
    (processors : Int) : MetricsOf α :=
  let m := { m with
    processors := processors
    uptimeMs := s.uptimeMs
    processCpuTimeNs := s.cpuTimeNs
    gcTimeMs := s.gcTimeMs }
  let m :=
    if 0 < m.prevUptimeMs ∧ 0 < m.prevCpuTimeNs ∧ 0 < s.gcTimeMs then
      let uptime := Counter.sub s.uptimeMs m.prevUptimeMs
      let cpu := (Counter.sub s.cpuTimeNs m.prevCpuTimeNs).tdiv nanosPerMilli
      let gc := Counter.sub s.gcTimeMs m.prevGcTimeMs
      { m with
        deltaUptimeMs := uptime
        deltaCpuTimeMs := cpu
        deltaGcTimeMs := gc
        gcLoad := load cpu gc processors
        cpuLoad := load uptime cpu processors }
    else m
  { m with
    prevUptimeMs := s.uptimeMs
    prevCpuTimeNs := s.cpuTimeNs
    prevGcTimeMs := s.gcTimeMs }

/-- Takes a sample into the metrics that are shown. -/
def Metrics.apply (m : Metrics) (s : RawSample) (processors : Int) : Metrics :=
  MetricsOf.applySample shownLoad m s processors

end VmMonitor
