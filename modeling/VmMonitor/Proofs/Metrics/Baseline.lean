import Mathlib.Data.List.Chain
import Mathlib.Data.List.Induction
import VmMonitor.Proofs.Metrics

/-!
# What a sequence of samples leaves

The baseline moves with every sample, while differences and loads move only with a sample that is
compared. So after any number of samples the baseline is the last one, and the differences are those
of two samples that followed each other, however long ago: of the latest pair that was compared.

## What is proved

* `Metrics.baseline_takeAll` — the baseline is the last sample.
* `Metrics.rates_concat_of_compares`, `Metrics.rates_concat_of_not_compares` — what one sample more
  does to differences and loads.
* `Metrics.latest_comparison` — all of that after a whole sequence.
-/

namespace VmMonitor

/-- The second sample is compared with the first one, if it follows it: that one had counted anything,
and this one has spent time in garbage collection. -/
def RawSample.Compares (a b : RawSample) : Prop :=
  0 < a.uptimeMs ∧ 0 < a.cpuTimeNs ∧ 0 < b.gcTimeMs

/-- Differences and loads. -/
structure Rates where
  uptimeMs : Int
  cpuTimeMs : Int
  gcTimeMs : Int
  cpuLoad : Binary64
  gcLoad : Binary64

namespace Rates

/-- Nothing was compared. -/
def none : Rates := ⟨0, 0, 0, Binary64.zero, Binary64.zero⟩

/-- From the first sample to the second one, which was taken on so many processors. -/
def between (a b : RawSample) (processors : Int) : Rates :=
  let uptime := Counter.sub b.uptimeMs a.uptimeMs
  let cpu := (Counter.sub b.cpuTimeNs a.cpuTimeNs).tdiv nanosPerMilli
  let gc := Counter.sub b.gcTimeMs a.gcTimeMs
  ⟨uptime, cpu, gc, shownLoad uptime cpu processors, shownLoad cpu gc processors⟩

end Rates

namespace Metrics

/-- The counters that were read last. -/
def counters (m : Metrics) : RawSample := ⟨m.uptimeMs, m.processCpuTimeNs, m.gcTimeMs⟩

/-- What the next sample is compared with. -/
def baseline (m : Metrics) : RawSample := ⟨m.prevUptimeMs, m.prevCpuTimeNs, m.prevGcTimeMs⟩

/-- What the last comparison gave. -/
def rates (m : Metrics) : Rates :=
  ⟨m.deltaUptimeMs, m.deltaCpuTimeMs, m.deltaGcTimeMs, m.cpuLoad, m.gcLoad⟩

/-- The metrics after some samples, each with the number of processors it was taken on. -/
def takeAll (steps : List (RawSample × Int)) : Metrics :=
  steps.foldl (fun m step => m.apply step.1 step.2) initial

variable (m : Metrics) (s : RawSample) (processors : Int)

/-! ### One sample -/

@[simp] theorem counters_apply : (m.apply s processors).counters = s := by
  by_cases h : m.Compares s.gcTimeMs
  · rw [apply_of_compares processors h]
    rfl
  · rw [apply_of_not_compares processors h]
    rfl

@[simp] theorem baseline_apply : (m.apply s processors).baseline = s := rfl

@[simp] theorem processors_apply : (m.apply s processors).processors = processors := by
  by_cases h : m.Compares s.gcTimeMs
  · rw [apply_of_compares processors h]
  · rw [apply_of_not_compares processors h]

variable {m s}

theorem rates_apply_of_compares (h : m.baseline.Compares s) :
    (m.apply s processors).rates = .between m.baseline s processors := by
  have h' : m.Compares s.gcTimeMs := h
  rw [apply_of_compares processors h']
  rfl

theorem rates_apply_of_not_compares (h : ¬ m.baseline.Compares s) :
    (m.apply s processors).rates = m.rates := by
  have h' : ¬ m.Compares s.gcTimeMs := h
  rw [apply_of_not_compares processors h']
  rfl

/-! ### Many samples -/

theorem takeAll_concat (steps : List (RawSample × Int)) (step : RawSample × Int) :
    takeAll (steps ++ [step]) = (takeAll steps).apply step.1 step.2 := by
  simp [takeAll]

/-- The first sample is never compared. -/
theorem not_compares_initial (s : RawSample) : ¬ initial.baseline.Compares s := by
  rintro ⟨huptime, -⟩
  exact absurd huptime (by decide)

/-- What was read last is the baseline. -/
theorem baseline_takeAll {steps : List (RawSample × Int)} {step : RawSample × Int}
    (h : steps.getLast? = some step) : (takeAll steps).baseline = step.1 := by
  obtain ⟨earlier, rfl⟩ := List.getLast?_eq_some_iff.1 h
  rw [takeAll_concat, baseline_apply]

variable {steps : List (RawSample × Int)} {a b : RawSample × Int}

/-- A sample that is compared sets the differences from the one before it. -/
theorem rates_concat_of_compares (h : a.1.Compares b.1) :
    (takeAll (steps ++ [a] ++ [b])).rates = .between a.1 b.1 b.2 := by
  have hbaseline : (takeAll (steps ++ [a])).baseline = a.1 := baseline_takeAll (by simp)
  rw [takeAll_concat, rates_apply_of_compares, hbaseline]
  rwa [hbaseline]

/-- One that is not compared leaves them as they were. -/
theorem rates_concat_of_not_compares (h : ¬ a.1.Compares b.1) :
    (takeAll (steps ++ [a] ++ [b])).rates = (takeAll (steps ++ [a])).rates := by
  have hbaseline : (takeAll (steps ++ [a])).baseline = a.1 := baseline_takeAll (by simp)
  rw [takeAll_concat, rates_apply_of_not_compares]
  rwa [hbaseline]

/-- **The latest comparison.** After any samples, counters and baseline are those of the last one.
Differences and loads are those between two samples that followed each other, the second of which was
compared while none after it was; or, if none was compared at all, there are none. -/
theorem latest_comparison (steps : List (RawSample × Int)) :
    (∀ s processors, steps.getLast? = some (s, processors) →
      (takeAll steps).counters = s ∧ (takeAll steps).baseline = s ∧
        (takeAll steps).processors = processors) ∧
    ((∃ earlier a b later, steps = earlier ++ a :: b :: later ∧ a.1.Compares b.1 ∧
        (b :: later).IsChain (fun x y => ¬ x.1.Compares y.1) ∧
        (takeAll steps).rates = .between a.1 b.1 b.2) ∨
      (steps.IsChain (fun x y => ¬ x.1.Compares y.1) ∧ (takeAll steps).rates = .none)) := by
  constructor
  · intro s processors h
    obtain ⟨earlier, rfl⟩ := List.getLast?_eq_some_iff.1 h
    simp [takeAll_concat]
  induction steps using List.reverseRecOn with
  | nil => exact .inr ⟨.nil, rfl⟩
  | append_singleton steps b ih =>
    rcases List.eq_nil_or_concat steps with rfl | ⟨before, a, rfl⟩
    · -- There is nothing to compare the first sample with.
      exact .inr ⟨.singleton b, rates_apply_of_not_compares b.2 (not_compares_initial b.1)⟩
    rw [List.concat_eq_append] at ih ⊢
    by_cases hab : a.1.Compares b.1
    · exact .inl ⟨before, a, b, [], by simp, hab, .singleton b, rates_concat_of_compares hab⟩
    have hlast : ∀ x ∈ (before ++ [a]).getLast?, ∀ y ∈ [b].head?, ¬ x.1.Compares y.1 := by
      simpa using hab
    rw [rates_concat_of_not_compares hab]
    rcases ih with ⟨earlier, a', b', later, heq, hcompares, hchain, hrates⟩ | ⟨hchain, hrates⟩
    · refine .inl ⟨earlier, a', b', later ++ [b], by simp [heq], hcompares, ?_, hrates⟩
      have htail : (b' :: later).getLast? = (before ++ [a]).getLast? := by
        simp [heq, List.getLast?_cons]
      rw [← List.cons_append]
      exact List.isChain_append.2 ⟨hchain, .singleton b, by rwa [htail]⟩
    · exact .inr ⟨List.isChain_append.2 ⟨hchain, .singleton b, hlast⟩, hrates⟩

end Metrics

end VmMonitor
