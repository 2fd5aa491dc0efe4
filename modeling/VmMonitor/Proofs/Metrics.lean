import Mathlib.Tactic.SplitIfs
import VmMonitor.Metrics

/-!
# Taking a sample in

A sample becomes the counters and the baseline in any case. It is compared with the baseline before
it, which replaces differences and loads, only if that is of use.
-/

namespace VmMonitor

/-- A sample is compared with the baseline: that one had counted anything, and the sample has spent
time in garbage collection. -/
def MetricsOf.Compares {α : Type} (m : MetricsOf α) (gcTimeMs : Int) : Prop :=
  0 < m.prevUptimeMs ∧ 0 < m.prevCpuTimeNs ∧ 0 < gcTimeMs

namespace MetricsOf

variable {α : Type} (load : Int → Int → Int → α) {m : MetricsOf α} {s : RawSample} (processors : Int)

/-- A sample that is compared replaces differences and loads as well, whatever kind of number a load
is. -/
theorem applySample_of_compares (h : m.Compares s.gcTimeMs) : m.applySample load s processors =
    { m with
      processors := processors
      uptimeMs := s.uptimeMs
      processCpuTimeNs := s.cpuTimeNs
      gcTimeMs := s.gcTimeMs
      prevUptimeMs := s.uptimeMs
      prevCpuTimeNs := s.cpuTimeNs
      prevGcTimeMs := s.gcTimeMs
      deltaUptimeMs := Counter.sub s.uptimeMs m.prevUptimeMs
      deltaCpuTimeMs := (Counter.sub s.cpuTimeNs m.prevCpuTimeNs).tdiv nanosPerMilli
      deltaGcTimeMs := Counter.sub s.gcTimeMs m.prevGcTimeMs
      cpuLoad := load (Counter.sub s.uptimeMs m.prevUptimeMs)
        ((Counter.sub s.cpuTimeNs m.prevCpuTimeNs).tdiv nanosPerMilli) processors
      gcLoad := load ((Counter.sub s.cpuTimeNs m.prevCpuTimeNs).tdiv nanosPerMilli)
        (Counter.sub s.gcTimeMs m.prevGcTimeMs) processors } := by
  simp only [applySample]
  split_ifs with hif
  · rfl
  · exact absurd h hif

/-- One that is not compared leaves them as they were. -/
theorem applySample_of_not_compares (h : ¬ m.Compares s.gcTimeMs) :
    m.applySample load s processors =
      { m with
        processors := processors
        uptimeMs := s.uptimeMs
        processCpuTimeNs := s.cpuTimeNs
        gcTimeMs := s.gcTimeMs
        prevUptimeMs := s.uptimeMs
        prevCpuTimeNs := s.cpuTimeNs
        prevGcTimeMs := s.gcTimeMs } := by
  simp only [applySample]
  split_ifs with hif
  · exact absurd hif h
  · rfl

end MetricsOf

namespace Metrics

variable (m : Metrics) (s : RawSample) (processors : Int)

/-! ### What every sample replaces, and what none touches -/

@[simp] theorem apply_uptimeMs : (m.apply s processors).uptimeMs = s.uptimeMs := by
  simp only [apply, MetricsOf.applySample]
  split_ifs <;> rfl

@[simp] theorem apply_gcTimeMs : (m.apply s processors).gcTimeMs = s.gcTimeMs := by
  simp only [apply, MetricsOf.applySample]
  split_ifs <;> rfl

@[simp] theorem apply_updateErrors : (m.apply s processors).updateErrors = m.updateErrors := by
  simp only [apply, MetricsOf.applySample]
  split_ifs <;> rfl

/-! ### Differences -/

variable {m s}

/-- A sample that is compared replaces differences and loads as well. -/
theorem apply_of_compares (h : m.Compares s.gcTimeMs) : m.apply s processors =
    { m with
      processors := processors
      uptimeMs := s.uptimeMs
      processCpuTimeNs := s.cpuTimeNs
      gcTimeMs := s.gcTimeMs
      prevUptimeMs := s.uptimeMs
      prevCpuTimeNs := s.cpuTimeNs
      prevGcTimeMs := s.gcTimeMs
      deltaUptimeMs := Counter.sub s.uptimeMs m.prevUptimeMs
      deltaCpuTimeMs := (Counter.sub s.cpuTimeNs m.prevCpuTimeNs).tdiv nanosPerMilli
      deltaGcTimeMs := Counter.sub s.gcTimeMs m.prevGcTimeMs
      cpuLoad := shownLoad (Counter.sub s.uptimeMs m.prevUptimeMs)
        ((Counter.sub s.cpuTimeNs m.prevCpuTimeNs).tdiv nanosPerMilli) processors
      gcLoad := shownLoad ((Counter.sub s.cpuTimeNs m.prevCpuTimeNs).tdiv nanosPerMilli)
        (Counter.sub s.gcTimeMs m.prevGcTimeMs) processors } :=
  MetricsOf.applySample_of_compares shownLoad processors h

/-- One that is not compared leaves them as they were. -/
theorem apply_of_not_compares (h : ¬ m.Compares s.gcTimeMs) : m.apply s processors =
    { m with
      processors := processors
      uptimeMs := s.uptimeMs
      processCpuTimeNs := s.cpuTimeNs
      gcTimeMs := s.gcTimeMs
      prevUptimeMs := s.uptimeMs
      prevCpuTimeNs := s.cpuTimeNs
      prevGcTimeMs := s.gcTimeMs } :=
  MetricsOf.applySample_of_not_compares shownLoad processors h

/-- The time between two samples is that from the baseline on. -/
theorem apply_deltaUptimeMs (h : m.Compares s.gcTimeMs) :
    (m.apply s processors).deltaUptimeMs = Counter.sub s.uptimeMs m.prevUptimeMs := by
  rw [apply_of_compares processors h]

/-- Without a comparison the one before stays. -/
theorem apply_deltaUptimeMs_of_not_compares (h : ¬ m.Compares s.gcTimeMs) :
    (m.apply s processors).deltaUptimeMs = m.deltaUptimeMs := by
  rw [apply_of_not_compares processors h]

end Metrics

end VmMonitor
