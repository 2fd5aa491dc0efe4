import Mathlib.Tactic.SplitIfs
import VmMonitor.Proofs.Metrics.Baseline
import VmMonitor.Proofs.Number.Counter

/-!
# Bounds of the loads

A load is a share of two differences, and it stays as it is until the next sample that is compared. So
a bound on loads is no fact about the last two samples: whatever has stalled, been reset or been cut
off to whole milliseconds since then, the loads are those of the differences they are shown with. This
is what every sample keeps, and the bounds follow from it, the upper one without any condition on the
counters. For the lower one no time may run backwards. The time of the garbage collector is measured by
the CPU time and not by the time that passed, so both counters have to rise for it. A sample is compared
only with one that has counted something, and between two such counters no difference is lost in 64
bits.

The loads are taken in exact numbers here. The same samples leave the same differences then as with the
loads that are shown.

## What is proved

* `exactLoad_eq`, `exactLoad_le`, `exactLoad_pos_iff` — a load by itself.
* `MetricsOf.Consistent.applySample`, `MetricsOf.Forward.applySample` — what a sample keeps.
* `ExactMetrics.loads_bounded` — **the bounds** after any samples.
-/

namespace VmMonitor

/-! ### One load -/

section

variable {elapsed busy processors : Int}

/-- The share is none if nothing was done or no time passed, and capped at 99 otherwise. -/
theorem exactLoad_eq (elapsed busy processors : Int) : exactLoad elapsed busy processors =
    if busy ≤ 0 ∨ elapsed = 0 then 0
    else if (busy : Rat) / (elapsed * processors) < 99 then (busy : Rat) / (elapsed * processors)
    else 99 := by
  have hcond : ((busy : Rat) ≤ 0 ∨ ((elapsed : Rat) ≤ 0 ∧ 0 ≤ (elapsed : Rat))) ↔
      (busy ≤ 0 ∨ elapsed = 0) := by
    norm_cast
    omega
  simp only [exactLoad, cappedShare, hcond]

theorem exactLoad_le (elapsed busy processors : Int) : exactLoad elapsed busy processors ≤ 99 := by
  rw [exactLoad_eq]
  split_ifs with hidle hbelow
  · decide
  · exact Rat.le_of_lt hbelow
  · exact Rat.le_refl

/-- What was done has a share with the sign of the time that passed. -/
theorem share_pos_iff {elapsed busy processors : Rat} (hbusy : 0 < busy)
    (hprocessors : 0 < processors) : 0 < busy / (elapsed * processors) ↔ 0 < elapsed := by
  calc 0 < busy / (elapsed * processors)
    _ ↔ busy * 0 < busy * (elapsed * processors)⁻¹ := by rw [Rat.mul_zero, Rat.div_def]
    _ ↔ 0 < (elapsed * processors)⁻¹ := Rat.mul_lt_mul_left hbusy
    _ ↔ 0 * processors < elapsed * processors := by rw [Rat.inv_pos, Rat.zero_mul]
    _ ↔ 0 < elapsed := Rat.mul_lt_mul_right hprocessors

/-- A load is positive just if something was done while time passed. -/
theorem exactLoad_pos_iff (hp : 1 ≤ processors) :
    0 < exactLoad elapsed busy processors ↔ 0 < elapsed ∧ 0 < busy := by
  rw [exactLoad_eq]
  by_cases hidle : busy ≤ 0 ∨ elapsed = 0
  · rw [if_pos hidle]
    refine iff_of_false Rat.lt_irrefl fun ⟨hpassed, hdone⟩ => ?_
    omega
  · have hdone : 0 < busy := Int.not_le.1 (not_or.1 hidle).1
    have hshare : 0 < (busy : Rat) / (elapsed * processors) ↔ 0 < elapsed :=
      (share_pos_iff (Rat.intCast_pos.2 hdone) (Rat.intCast_pos.2 hp)).trans Rat.intCast_pos
    rw [if_neg hidle]
    split_ifs with hbelow
    · exact hshare.trans (and_iff_left hdone).symm
    · -- A share that is capped is above zero, so time has passed.
      have hpos : (0 : Rat) < busy / (elapsed * processors) := by grind
      exact iff_of_true (by decide) ⟨hshare.1 hpos, hdone⟩

/-- While time does not run backwards, it is not negative. -/
theorem exactLoad_nonneg (hp : 1 ≤ processors) (h : 0 ≤ elapsed) :
    0 ≤ exactLoad elapsed busy processors := by
  by_cases hidle : busy ≤ 0 ∨ elapsed = 0
  · have hnone : exactLoad elapsed busy processors = 0 := by rw [exactLoad_eq, if_pos hidle]
    exact hnone ▸ Rat.le_refl
  · refine Rat.le_of_lt ((exactLoad_pos_iff hp).2 ?_)
    omega

end

/-! ### One sample -/

/-- The counters are numbers of 64 bits, as those of every runtime are. -/
def RawSample.Fits (s : RawSample) : Prop :=
  isInt64 s.uptimeMs ∧ isInt64 s.cpuTimeNs ∧ isInt64 s.gcTimeMs

instance (s : RawSample) : Decidable s.Fits := inferInstanceAs (Decidable (_ ∧ _ ∧ _))

namespace MetricsOf

/-- All of the metrics but the loads. -/
def counts {α : Type} (m : MetricsOf α) : MetricsOf Unit := { m with cpuLoad := (), gcLoad := () }

/-- A sample makes nothing but the loads depend on what kind of number they are. -/
theorem counts_applySample {α : Type} (load : Int → Int → Int → α) (m : MetricsOf α) (s : RawSample)
    (processors : Int) : (m.applySample load s processors).counts =
      m.counts.applySample (fun _ _ _ => ()) s processors := by
  by_cases h : m.Compares s.gcTimeMs
  · have h' : m.counts.Compares s.gcTimeMs := h
    rw [applySample_of_compares _ _ h, applySample_of_compares _ _ h']
    rfl
  · have h' : ¬ m.counts.Compares s.gcTimeMs := h
    rw [applySample_of_not_compares _ _ h, applySample_of_not_compares _ _ h']
    rfl

/-- The loads are those of the differences that stand beside them. -/
def Consistent (m : MetricsOf Rat) : Prop :=
  ∃ processors, 1 ≤ processors ∧
    m.cpuLoad = exactLoad m.deltaUptimeMs m.deltaCpuTimeMs processors ∧
    m.gcLoad = exactLoad m.deltaCpuTimeMs m.deltaGcTimeMs processors

/-- No time ran backwards between the two samples of the last comparison. -/
def Forward (m : MetricsOf Rat) : Prop := 0 ≤ m.deltaUptimeMs ∧ 0 ≤ m.deltaCpuTimeMs

variable {m : MetricsOf Rat} {s : RawSample} {processors : Int}

theorem Consistent.applySample (h : m.Consistent) (hp : 1 ≤ processors) :
    (m.applySample exactLoad s processors).Consistent := by
  by_cases hcompares : m.Compares s.gcTimeMs
  · rw [applySample_of_compares _ _ hcompares]
    exact ⟨processors, hp, rfl, rfl⟩
  · rw [applySample_of_not_compares _ _ hcompares]
    exact h

theorem Forward.applySample (h : m.Forward) (hfits : s.Fits)
    (hs : m.Compares s.gcTimeMs → m.prevUptimeMs ≤ s.uptimeMs ∧ m.prevCpuTimeNs ≤ s.cpuTimeNs) :
    (m.applySample exactLoad s processors).Forward := by
  by_cases hcompares : m.Compares s.gcTimeMs
  · obtain ⟨huptime, hcpu⟩ := hs hcompares
    have hpassed : 0 ≤ Counter.sub s.uptimeMs m.prevUptimeMs :=
      Counter.sub_nonneg hfits.1 (Int.le_of_lt hcompares.1) huptime
    have hspent : 0 ≤ Counter.sub s.cpuTimeNs m.prevCpuTimeNs :=
      Counter.sub_nonneg hfits.2.1 (Int.le_of_lt hcompares.2.1) hcpu
    rw [applySample_of_compares _ _ hcompares]
    exact ⟨hpassed, Int.tdiv_nonneg hspent (by decide)⟩
  · rw [applySample_of_not_compares _ _ hcompares]
    exact h

/-! ### Bounds -/

theorem Consistent.le (h : m.Consistent) : m.cpuLoad ≤ 99 ∧ m.gcLoad ≤ 99 := by
  obtain ⟨processors, -, hcpu, hgc⟩ := h
  rw [hcpu, hgc]
  exact ⟨exactLoad_le _ _ _, exactLoad_le _ _ _⟩

theorem Consistent.nonneg (h : m.Consistent) (hforward : m.Forward) :
    0 ≤ m.cpuLoad ∧ 0 ≤ m.gcLoad := by
  obtain ⟨processors, hp, hcpu, hgc⟩ := h
  obtain ⟨huptime, hcputime⟩ := hforward
  rw [hcpu, hgc]
  exact ⟨exactLoad_nonneg hp huptime, exactLoad_nonneg hp hcputime⟩

/-- A processor load means that something was done while time passed. -/
theorem Consistent.pos_iff (h : m.Consistent) :
    0 < m.cpuLoad ↔ 0 < m.deltaUptimeMs ∧ 0 < m.deltaCpuTimeMs := by
  obtain ⟨processors, hp, hcpu, -⟩ := h
  rw [hcpu, exactLoad_pos_iff hp]

end MetricsOf

/-! ### Many samples -/

/-- Metrics with loads in exact numbers. -/
abbrev ExactMetrics := MetricsOf Rat

namespace ExactMetrics

/-- Nothing was read yet. -/
def initial : ExactMetrics := { cpuLoad := 0, gcLoad := 0 }

/-- The metrics after some samples, each with the number of processors it was taken on. -/
def takeAll (steps : List (RawSample × Int)) : ExactMetrics :=
  steps.foldl (fun m step => m.applySample exactLoad step.1 step.2) initial

theorem takeAll_snoc (steps : List (RawSample × Int)) (step : RawSample × Int) :
    takeAll (steps ++ [step]) = (takeAll steps).applySample exactLoad step.1 step.2 := by
  simp [takeAll]

/-- The loads that are shown go with the same counters and differences. -/
theorem counts_takeAll (steps : List (RawSample × Int)) :
    (takeAll steps).counts = (Metrics.takeAll steps).counts := by
  induction steps using List.reverseRecOn with
  | nil => rfl
  | append_singleton steps step ih =>
    rw [takeAll_snoc, Metrics.takeAll_concat, MetricsOf.counts_applySample, ih]
    exact (MetricsOf.counts_applySample shownLoad _ _ _).symm

theorem consistent_takeAll {steps : List (RawSample × Int)} (hp : ∀ step ∈ steps, 1 ≤ step.2) :
    (takeAll steps).Consistent := by
  induction steps using List.reverseRecOn with
  | nil => exact ⟨1, Int.le_refl 1, rfl, rfl⟩
  | append_singleton steps step ih =>
    rw [takeAll_snoc]
    exact (ih fun s hs => hp s (List.mem_append_left _ hs)).applySample (hp step (by simp))

/-- Neither of the two times runs backwards from one sample to the next. -/
def Rises (a b : RawSample × Int) : Prop :=
  a.1.uptimeMs ≤ b.1.uptimeMs ∧ a.1.cpuTimeNs ≤ b.1.cpuTimeNs

theorem forward_takeAll {steps : List (RawSample × Int)} (h : steps.IsChain Rises)
    (hfits : ∀ step ∈ steps, step.1.Fits) : (takeAll steps).Forward := by
  induction steps using List.reverseRecOn with
  | nil => exact ⟨Int.le_refl 0, Int.le_refl 0⟩
  | append_singleton steps step ih =>
    obtain ⟨hsteps, -, hlast⟩ := List.isChain_append.1 h
    rw [takeAll_snoc]
    have hbefore : (takeAll steps).Forward :=
      ih hsteps fun s hs => hfits s (List.mem_append_left _ hs)
    refine hbefore.applySample (hfits step (by simp)) fun hcompares => ?_
    rcases List.eq_nil_or_concat steps with rfl | ⟨earlier, last, rfl⟩
    · exact absurd hcompares.1 (by decide)
    · rw [List.concat_eq_append, takeAll_snoc]
      exact hlast last (by simp) step (by simp)

/-- **The bounds of the loads.** After some of the samples the loads are those of the differences beside
them, which are the differences that are shown, and none is above 99. A processor load that is positive
means that both differences are. If neither the uptime nor the CPU time ever fell, as counters of 64
bits, no load is below zero. -/
theorem loads_bounded {steps taken : List (RawSample × Int)} (hp : ∀ step ∈ steps, 1 ≤ step.2)
    (h : taken <+: steps) :
    (takeAll taken).counts = (Metrics.takeAll taken).counts ∧ (takeAll taken).Consistent ∧
    (takeAll taken).cpuLoad ≤ 99 ∧ (takeAll taken).gcLoad ≤ 99 ∧
    (0 < (takeAll taken).cpuLoad →
      0 < (takeAll taken).deltaUptimeMs ∧ 0 < (takeAll taken).deltaCpuTimeMs) ∧
    ((∀ step ∈ steps, step.1.Fits) → steps.IsChain Rises →
      0 ≤ (takeAll taken).cpuLoad ∧ 0 ≤ (takeAll taken).gcLoad) := by
  have hconsistent : (takeAll taken).Consistent :=
    consistent_takeAll fun step hstep => hp step (h.subset hstep)
  refine ⟨counts_takeAll taken, hconsistent, hconsistent.le.1, hconsistent.le.2,
    hconsistent.pos_iff.1, fun hfits hrises => ?_⟩
  have hsome : taken.IsChain Rises := List.IsChain.prefix hrises h
  have hforward : (takeAll taken).Forward :=
    forward_takeAll hsome fun step hstep => hfits step (h.subset hstep)
  exact hconsistent.nonneg hforward

/-- A quarter of two processors, then a jump that is capped, then a sample that is not compared. -/
def jump : List (RawSample × Int) :=
  [(⟨1000, 1000000000, 5⟩, 1), (⟨2000, 1500000000, 10⟩, 2), (⟨2001, 1000000000000, 20⟩, 1),
    (⟨2001, 1000000000000, 0⟩, 1)]

theorem loads_bounded_of_jump : (∀ step ∈ jump, 1 ≤ step.2) ∧ (∀ step ∈ jump, step.1.Fits) ∧
    jump.IsChain Rises ∧
    (takeAll (jump.take 2)).cpuLoad = 1 / 4 ∧ 0 ≤ (takeAll (jump.take 2)).gcLoad ∧
    (takeAll jump).cpuLoad = 99 ∧ (takeAll jump).gcLoad ≤ 99 ∧
    0 < (takeAll jump).deltaUptimeMs ∧ 0 < (takeAll jump).deltaCpuTimeMs := by
  have hp : ∀ step ∈ jump, 1 ≤ step.2 := by decide
  have hfits : ∀ step ∈ jump, step.1.Fits := by decide
  have hrises : jump.IsChain Rises := by simp [jump, Rises]
  have hquarter : (takeAll (jump.take 2)).cpuLoad = 1 / 4 := by decide +kernel
  have hcapped : (takeAll jump).cpuLoad = 99 := by decide +kernel
  obtain ⟨-, -, -, -, -, hnonneg⟩ := loads_bounded hp (jump.take_prefix 2)
  obtain ⟨-, -, -, hgc, hrisen, -⟩ := loads_bounded hp (List.prefix_refl jump)
  obtain ⟨huptime, hcputime⟩ := hrisen (by rw [hcapped]; decide)
  exact ⟨hp, hfits, hrises, hquarter, (hnonneg hfits hrises).2, hcapped, hgc, huptime, hcputime⟩

end ExactMetrics

end VmMonitor
