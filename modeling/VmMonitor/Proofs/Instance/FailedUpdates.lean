import Mathlib.Algebra.Ring.Int.Defs
import VmMonitor.Proofs.Instance.Constants
import VmMonitor.Proofs.Instance.Reading
import VmMonitor.Proofs.Number.Counter

/-!
# What a failed update leaves

A reading first collects a complete set of counters and takes it in as a whole. Classes, threads and
deadlocks follow one by one, each taken in before the next is read. So wherever a reading fails, the
counters are either all old or all from one set that was read in this cycle.

## What is proved

* `Gauges.complete_of_readCounters` — a set of counters is complete.
* `Gauges.partly_of_sample` — **the stages**: what a reading that fails has made of the metrics.
* `TrackedVm.never_mixed` — what this comes to for an update.
-/

namespace VmMonitor

open Exchange

/-- What of the metrics a set of counters decides; what is read after it, and the count of failures,
is left out. -/
def Metrics.sampled (m : Metrics) : Metrics :=
  { m with loadedClasses := 0, threadCount := 0, deadlocks := false, updateErrors := 0 }

namespace Gauges

variable {σ : Type}

/-- What is read after the counters is left alone by them. -/
theorem takeCounters_unsampled (m : Metrics) (c : Counters) :
    (takeCounters m c).loadedClasses = m.loadedClasses ∧
      (takeCounters m c).threadCount = m.threadCount ∧
      (takeCounters m c).deadlocks = m.deadlocks := by
  simp only [takeCounters, Metrics.apply, MetricsOf.applySample]
  split_ifs <;> exact ⟨rfl, rfl, rfl⟩

/-! ### A complete set of counters -/

/-- The time and the count of a collector, the time first. -/
def readCollector (src : Source σ) (c : ObjectName) : Exchange σ (Int × Int) := do
  return (← src.collectionTime c, ← src.collectionCount c)

/-- Every one of the counters is read, one after the other, from one state to another. What 64 bits keep
of the totals is taken, and of the CPU time if that comes in units of a hundred nanoseconds. -/
inductive Complete (src : Source σ) (hundred : Bool) : σ → Counters → σ → Prop
  | read {s s₁ s₂ s₃ s₄ s₅ s₆ s₇ : σ} {processors uptimeMs cpu : Int}
      {collectors : List ObjectName} {each : List (Int × Int)} {heap nonHeap : MemoryUsage} :
      src.availableProcessors.run s = (.ok processors, s₁) → src.uptime.run s₁ = (.ok uptimeMs, s₂) →
      src.processCpuTime.run s₂ = (.ok cpu, s₃) →
      src.garbageCollectors.run s₃ = (.ok collectors, s₄) →
      InTurn (readCollector src) collectors s₄ each s₅ → src.heap.run s₅ = (.ok heap, s₆) →
      src.nonHeap.run s₆ = (.ok nonHeap, s₇) →
      Complete src hundred s
        { processors
          sample := {
            uptimeMs
            cpuTimeNs := if hundred then Counter.mul cpu 100 else cpu
            gcTimeMs := Counter.wrap (each.map Prod.fst).sum }
          gcCount := Counter.wrap (each.map Prod.snd).sum
          heap
          nonHeap } s₇

section

variable {src : Source σ} {hundred : Bool} {s s' : σ} {counters : Counters}

/-- The totals are those of collectors that are read one after the other. -/
theorem inTurn_of_collections {cs : List ObjectName} {time count : Int} {totals : Int × Int}
    (h : (collections src cs (Counter.wrap time, Counter.wrap count)).run s = (.ok totals, s')) :
    ∃ each, InTurn (readCollector src) cs s each s' ∧
      totals = (Counter.wrap (time + (each.map Prod.fst).sum),
        Counter.wrap (count + (each.map Prod.snd).sum)) := by
  induction cs generalizing s time count with
  | nil =>
    cases h
    exact ⟨[], .nil _, by simp⟩
  | cons c cs ih =>
    obtain ⟨t, s₁, htime, h⟩ := run_bind_eq_ok.1 h
    obtain ⟨n, s₂, hcount, h⟩ := run_bind_eq_ok.1 h
    rw [Counter.wrap_add_wrap, Counter.wrap_add_wrap] at h
    obtain ⟨each, hcs, htotals⟩ := ih h
    have hc : (readCollector src c).run s = (.ok (t, n), s₂) :=
      run_bind_eq_ok.2 ⟨t, s₁, htime, run_bind_eq_ok.2 ⟨n, s₂, hcount, rfl⟩⟩
    refine ⟨(t, n) :: each, .cons hc hcs, ?_⟩
    simp only [htotals, List.map_cons, List.sum_cons, Int.add_assoc]

/-- A set of counters is complete. -/
theorem complete_of_readCounters (h : (readCounters src hundred).run s = (.ok counters, s')) :
    Complete src hundred s counters s' := by
  obtain ⟨processors, s₁, hprocessors, h⟩ := run_bind_eq_ok.1 h
  obtain ⟨uptime, s₂, huptime, h⟩ := run_bind_eq_ok.1 h
  obtain ⟨cpu, s₃, hcpu, h⟩ := run_bind_eq_ok.1 h
  obtain ⟨collectors, s₄, hcollectors, h⟩ := run_bind_eq_ok.1 h
  obtain ⟨totals, s₅, htotals, h⟩ := run_bind_eq_ok.1 h
  obtain ⟨heap, s₆, hheap, h⟩ := run_bind_eq_ok.1 h
  obtain ⟨nonHeap, s₇, hnonHeap, h⟩ := run_bind_eq_ok.1 h
  cases h
  rw [← Counter.wrap_zero] at htotals
  obtain ⟨each, hcs, rfl⟩ := inTurn_of_collections htotals
  simp only [Int.zero_add]
  exact .read hprocessors huptime hcpu hcollectors hcs hheap hnonHeap

/-- From the readings `g` and the state `s`, a set of counters is read, once the constants of the
runtime are known; the source is left in the state `s'`. -/
def ReadsCounters (src : Source σ) (g : Gauges) (s : σ) (counters : Counters) (s' : σ) : Prop :=
  ∃ hundred g₁ s₁, (learnRuntime src).run (g, s) = (.ok hundred, g₁, s₁) ∧
    Complete src hundred s₁ counters s'

end

/-! ### The stages of a reading -/

/-- The metrics after some part of a reading, which starts with the readings `g` in the state `s`. -/
inductive Partly (src : Source σ) (g : Gauges) (s : σ) : Metrics → Prop
  /-- Nothing was taken in. -/
  | nothing : Partly src g s g.metrics
  | counters {c : Counters} {s₁ : σ} : ReadsCounters src g s c s₁ →
      Partly src g s (takeCounters g.metrics c)
  | classes {c : Counters} {classes : Int} {s₁ s₂ : σ} : ReadsCounters src g s c s₁ →
      src.totalLoadedClasses.run s₁ = (.ok classes, s₂) →
      Partly src g s { takeCounters g.metrics c with loadedClasses := classes }
  | threads {c : Counters} {classes threads : Int} {s₁ s₂ s₃ : σ} : ReadsCounters src g s c s₁ →
      src.totalLoadedClasses.run s₁ = (.ok classes, s₂) →
      src.threadCount.run s₂ = (.ok threads, s₃) →
      Partly src g s
        { takeCounters g.metrics c with loadedClasses := classes, threadCount := threads }

section

variable {α β : Type} {src : Source σ} {g g' : Gauges} {s s' : σ} {e : ConnectionError}

/-- Something is read and taken in, and more follows: either the reading of it fails and nothing is
taken in, or what follows fails. -/
theorem run_take_eq_error {x : Exchange σ α} {f : α → Metrics → Metrics}
    {k : Exchange (Gauges × σ) β} (h : (x.beside Gauges >>= fun a => modifyMetrics (f a) >>= fun _ =>
      k).run (g, s) = (.error e, g', s')) :
    g' = g ∨ ∃ a s₁, x.run s = (.ok a, s₁) ∧
      k.run ({ g with metrics := f a g.metrics }, s₁) = (.error e, g', s') := by
  rcases run_bind_eq_error.1 h with hfail | ⟨a, ⟨g₁, s₁⟩, hread, hmore⟩
  · exact .inl (run_beside_eq_iff.1 hfail).2
  · obtain ⟨hx, rfl⟩ := run_beside_eq_iff.1 hread
    exact .inr ⟨a, s₁, hx, hmore⟩

/-- **The stages**: what a reading that fails has made of the metrics. -/
theorem partly_of_sample {lockUsage : Bool}
    (h : (sample src lockUsage).run (g, s) = (.error e, g', s')) : Partly src g s g'.metrics := by
  have hkeeps : (((learnRuntime src).run (g, s)).2.1).metrics = g.metrics :=
    learnRuntime_keeps_metrics src g.metrics (g, s) rfl
  rcases run_bind_eq_error.1 h with hlearn | ⟨hundred, ⟨g₁, s₁⟩, hlearn, h⟩
  · rw [hlearn] at hkeeps
    exact hkeeps ▸ .nothing
  rw [hlearn] at hkeeps
  rcases run_take_eq_error h with rfl | ⟨c, s₂, hcounters, h⟩
  · exact hkeeps ▸ .nothing
  have hcounted : ReadsCounters src g s c s₂ :=
    ⟨hundred, g₁, s₁, hlearn, complete_of_readCounters hcounters⟩
  rcases run_take_eq_error h with rfl | ⟨classes, s₃, hclasses, h⟩
  · exact hkeeps ▸ .counters hcounted
  rcases run_take_eq_error h with rfl | ⟨threads, s₄, hthreads, h⟩
  · exact hkeeps ▸ .classes hcounted hclasses
  rcases run_bind_eq_error.1 h with hdeadlocks | ⟨deadlocks, ⟨g₂, s₅⟩, -, h⟩
  · obtain ⟨-, rfl⟩ := run_beside_eq_iff.1 hdeadlocks
    exact hkeeps ▸ .threads hcounted hclasses hthreads
  · -- What was read can always be taken in.
    cases h

end

/-- Of the metrics before, a reading that starts in the state `s` has made `m`: the counters and all
that is derived from them are what they were, and so are the classes and the threads; or a complete
set of counters was read, and all of them are what taking it in gives. In that case the classes are
those that were read after the counters, if they are new, and the threads are those that were read
after the classes. -/
def Unmixed (src : Source σ) (g : Gauges) (s : σ) (m : Metrics) : Prop :=
  (m.sampled = g.metrics.sampled ∧ m.loadedClasses = g.metrics.loadedClasses ∧
    m.threadCount = g.metrics.threadCount) ∨
  ∃ counters s₁, ReadsCounters src g s counters s₁ ∧
    m.sampled = (takeCounters g.metrics counters).sampled ∧
    ((m.loadedClasses = g.metrics.loadedClasses ∧ m.threadCount = g.metrics.threadCount) ∨
      ∃ s₂, src.totalLoadedClasses.run s₁ = (.ok m.loadedClasses, s₂) ∧
        (m.threadCount = g.metrics.threadCount ∨
          ∃ s₃, src.threadCount.run s₂ = (.ok m.threadCount, s₃)))

namespace Partly

variable {src : Source σ} {g : Gauges} {s : σ} {m : Metrics}

theorem deadlocks (h : Partly src g s m) : m.deadlocks = g.metrics.deadlocks := by
  cases h with
  | nothing => rfl
  | counters _ => exact (takeCounters_unsampled _ _).2.2
  | classes _ _ => exact (takeCounters_unsampled _ _).2.2
  | threads _ _ _ => exact (takeCounters_unsampled _ _).2.2

theorem updateErrors (h : Partly src g s m) : m.updateErrors = g.metrics.updateErrors := by
  cases h with
  | nothing => rfl
  | counters _ => exact takeCounters_updateErrors ..
  | classes _ _ => exact takeCounters_updateErrors ..
  | threads _ _ _ => exact takeCounters_updateErrors ..

/-- No stage mixes two sets of counters. -/
theorem unmixed (h : Partly src g s m) : Unmixed src g s m := by
  cases h with
  | nothing => exact .inl ⟨rfl, rfl, rfl⟩
  | counters hcounted =>
    obtain ⟨hclasses, hthreads, -⟩ := takeCounters_unsampled g.metrics _
    exact .inr ⟨_, _, hcounted, rfl, .inl ⟨hclasses, hthreads⟩⟩
  | classes hcounted hclasses =>
    obtain ⟨-, hthreads, -⟩ := takeCounters_unsampled g.metrics _
    exact .inr ⟨_, _, hcounted, rfl, .inr ⟨_, hclasses, .inl hthreads⟩⟩
  | threads hcounted hclasses hthreads =>
    exact .inr ⟨_, _, hcounted, rfl, .inr ⟨_, hclasses, .inr ⟨_, hthreads⟩⟩⟩

end Partly

/-! ### Failed updates -/

variable {ω : Type} {t : Transport ω} {g g' : Gauges} {s s₁ s' : Session} {w w₁ w' : ω}

/-- A reading of a connected session that fails has come to one of the stages. -/
theorem partly_of_readSession {c : Connection} {e : ConnectionError} (hc : s.connection = some c)
    (h : g.readSession t s w = (.error e, g', s', w')) :
    Partly (Cache.source (t.source c.id)) g (c.cache.flush, w) g'.metrics := by
  rcases hrun : (sample (Cache.source (t.source c.id)) s.lockUsage).run (g, c.cache.flush, w)
    with ⟨result, g₁, cache, w₁⟩
  rw [readSession_of_run t hc hrun] at h
  obtain ⟨rfl, rfl, -, -⟩ := by simpa only [Prod.mk.injEq] using h
  exact partly_of_sample hrun

/-- An update that finds somebody and fails has come to one of the stages, and is counted. -/
theorem partly_of_update {id : InstanceId} {e : MonitorError} (hs : s.state.isAttached)
    (hlive : s.isLive t w = (true, s₁, w₁)) (h : g.update t id s w = (.error e, g', s', w')) :
    ∃ c m, s.connection = some c ∧
      Partly (Cache.source (t.source c.id)) g (c.cache.flush, w₁) m ∧
      g'.metrics = { m with updateErrors := m.updateErrors + 1 } := by
  obtain ⟨c, hc, -, rfl⟩ := Session.exists_connection_of_live t hlive
  rcases hread : g.readSession t s₁ w₁ with ⟨e' | u, g₁, s₂, w₂⟩
  · rcases happly : s₂.apply t (.updateFailed (g₁.metrics.updateErrors + 1)) w₂ with ⟨s₃, w₃⟩
    rw [update_of_failed hs hlive hread happly] at h
    cases h
    exact ⟨c, g₁.metrics, hc, partly_of_readSession hc hread, rfl⟩
  · rw [update_of_done hs hlive hread] at h
    cases h

end Gauges

namespace TrackedVm

variable {ω : Type} {t : Transport ω} {vm vm' : TrackedVm} {world world' : World ω}

/-- **Failed updates.** An update finds the peer alive and fails. Whatever it was that could not be
read, the counters are all as they were or all from a complete set that this update has read; whether
any thread waits in a deadlock is as it was, and the update is counted. -/
theorem never_mixed {s s₁ : Session} {w₁ : ω} {e : MonitorError}
    (hsession : world.registry.session? vm.session = some s) (hs : s.state.isAttached)
    (hlive : s.isLive t world.peers = (true, s₁, w₁))
    (h : vm.update t world = (.error e, vm', world')) :
    ∃ c, s.connection = some c ∧
      Gauges.Unmixed (Cache.source (t.source c.id)) vm.gauges (c.cache.flush, w₁) vm'.metrics ∧
      vm'.metrics.deadlocks = vm.metrics.deadlocks ∧
      vm'.metrics.updateErrors = vm.metrics.updateErrors + 1 := by
  rcases hu : vm.gauges.update t vm.id s world.peers with ⟨result, g', s', w'⟩
  simp only [update, World.onSession_of_some hsession, hu, Prod.mk.injEq] at h
  obtain ⟨rfl, rfl, -⟩ := h
  obtain ⟨c, m, hc, hpartly, hm⟩ := Gauges.partly_of_update hs hlive hu
  simp only [metrics, hm]
  exact ⟨c, hc, hpartly.unmixed, hpartly.deadlocks, congrArg (· + 1) hpartly.updateErrors⟩

/-- An instance behind a peer that tells all but the count of threads, before its first update. -/
def uncounted : TrackedVm × World Script :=
  settle Script.transport ⟨7, "", true, .localProcess 7⟩
    ⟨{}, { Script.talkative with broken := ["ThreadCount"] }⟩

/-- Its first update fails, and has taken a set of counters in. -/
theorem never_mixed_uncounted : ∃ s w₁ e vm' world' counters y, ∃ c : Connection,
    uncounted.2.registry.session? uncounted.1.session = some s ∧ s.state.isAttached ∧
      s.isLive Script.transport uncounted.2.peers = (true, s, w₁) ∧
      uncounted.1.update Script.transport uncounted.2 = (.error e, vm', world') ∧
      Gauges.ReadsCounters (Cache.source (Script.transport.source c.id)) uncounted.1.gauges
        (c.cache.flush, w₁) counters y ∧
      vm'.metrics.sampled = (Gauges.takeCounters uncounted.1.metrics counters).sampled ∧
      vm'.metrics.uptimeMs = 1 ∧ vm'.metrics.updateErrors = 1 := by
  obtain ⟨hfound, hfails, hold, hnew, hnone⟩ :
      ((uncounted.2.registry.session? uncounted.1.session).any fun s =>
        s.state.isAttached && (s.isLive Script.transport uncounted.2.peers).1) ∧
      ¬ (uncounted.1.update Script.transport uncounted.2).1.isOk ∧
      uncounted.1.metrics.uptimeMs = 0 ∧
      (uncounted.1.update Script.transport uncounted.2).2.1.metrics.uptimeMs = 1 ∧
      uncounted.1.metrics.updateErrors = 0 := by decide +kernel
  obtain ⟨s, hsession, hs⟩ := Option.any_eq_true _ _ |>.1 hfound
  obtain ⟨hon, hlive⟩ := Bool.and_eq_true_iff.1 hs
  rcases hl : s.isLive Script.transport uncounted.2.peers with ⟨_ | _, s₁, w₁⟩
  · simp [hl] at hlive
  obtain rfl := Session.isLive_of_true _ hl
  rcases hu : uncounted.1.update Script.transport uncounted.2 with ⟨e | u, vm', world'⟩
  swap
  · simp [hu, Except.isOk, Except.toBool] at hfails
  obtain ⟨c, -, hunmixed, -, hcount⟩ := never_mixed hsession hon hl hu
  rw [hu] at hnew
  rcases hunmixed with ⟨hsame, -⟩ | ⟨counters, y, hcounters, hsampled, -⟩
  · have huptime : vm'.metrics.uptimeMs = uncounted.1.metrics.uptimeMs :=
      congrArg (·.uptimeMs) hsame
    rw [hold, hnew] at huptime
    cases huptime
  · exact ⟨s₁, w₁, e, vm', world', counters, y, c, hsession, hon, hl, rfl, hcounters, hsampled, hnew,
      by rw [hcount, hnone]⟩

end TrackedVm

end VmMonitor
