import VmMonitor.Proofs.Instance.Update
import VmMonitor.Proofs.Metrics.Baseline

/-!
# What a full reading takes in

A reading that comes to its end has taken one complete set of counters in, and after that the count
of classes, the count of threads and whether any thread waits in a deadlock. An instance that is
attached and well after an update has been read in this way. One that fails may have taken its counters
in before it did, and then it has moved the baseline all the same.

## What is proved

* `Gauges.Read` — the metrics after such a reading.
* `Gauges.read_of_readSession`, `TrackedVm.read_of_update` — a reading, or an update, that ends well.
* `TrackedVm.baseline_of_update` — the baseline after any update, whether it ends well or not.
-/

namespace VmMonitor

open Exchange

namespace Gauges

/-- What a full reading makes of the metrics. -/
def Read (m m' : Metrics) : Prop :=
  ∃ (c : Counters) (classes threads : Int) (deadlocks : Bool),
    m' = { takeCounters m c with
      loadedClasses := classes
      threadCount := threads
      deadlocks := deadlocks }

namespace Read

variable {m m' : Metrics}

/-- The counters that were read are the new baseline. -/
theorem baseline_eq (h : Read m m') : m'.baseline = m'.counters := by
  obtain ⟨c, classes, threads, deadlocks, rfl⟩ := h
  exact (Metrics.counters_apply m c.sample c.processors).symm

theorem deltaUptimeMs (h : Read m m') (hm : m.Compares m'.gcTimeMs) :
    m'.deltaUptimeMs = Counter.sub m'.uptimeMs m.prevUptimeMs := by
  obtain ⟨c, classes, threads, deadlocks, rfl⟩ := h
  simp only [takeCounters, Metrics.apply_gcTimeMs, Metrics.apply_uptimeMs] at hm ⊢
  exact Metrics.apply_deltaUptimeMs c.processors hm

theorem deltaUptimeMs_of_not_compares (h : Read m m') (hm : ¬ m.Compares m'.gcTimeMs) :
    m'.deltaUptimeMs = m.deltaUptimeMs := by
  obtain ⟨c, classes, threads, deadlocks, rfl⟩ := h
  simp only [takeCounters, Metrics.apply_gcTimeMs] at hm ⊢
  exact Metrics.apply_deltaUptimeMs_of_not_compares c.processors hm

end Read

section

variable {σ : Type} (src : Source σ) (m : Metrics)

/-- The metrics are `m`. -/
def Shows (x : Gauges × σ) : Prop := x.1.metrics = m

/-- The constants of the runtime are no metrics. -/
theorem learnRuntime_keeps_metrics : Keeps (Shows m) (learnRuntime src) := by
  rintro ⟨g, s⟩ hg
  cases hr : g.runtime with
  | some info =>
    rw [run_learnRuntime_of_some src hr]
    exact hg
  | none =>
    rw [run_learnRuntime_of_none src hr]
    refine (Keeps.beside (RuntimeInfo.fetch src) fun g : Gauges => g.metrics = m).bind
      (fun info => ?_) _ hg
    exact fun _ h => h

theorem beside_yields {α : Type} (x : Exchange σ α) :
    Yields (Shows m) (x.beside Gauges) fun _ => Shows m :=
  (Keeps.beside x fun g : Gauges => g.metrics = m).yields

theorem modifyMetrics_yields (f : Metrics → Metrics) :
    Yields (Shows m) (modifyMetrics f : Exchange (Gauges × σ) Unit) fun _ => Shows (f m) := by
  rintro ⟨g, s⟩ rfl _ _ hrun
  cases hrun
  rfl

/-- A reading that ends well has read everything. -/
theorem sample_yields (lockUsage : Bool) :
    Yields (Shows m) (sample src lockUsage) fun _ x => Read m x.1.metrics := by
  refine (learnRuntime_keeps_metrics src m).yields.bind fun _ => ?_
  refine (beside_yields m _).bind fun counters => (modifyMetrics_yields m _).bind fun _ => ?_
  refine (beside_yields _ _).bind fun classes => (modifyMetrics_yields _ _).bind fun _ => ?_
  refine (beside_yields _ _).bind fun threads => (modifyMetrics_yields _ _).bind fun _ => ?_
  refine (beside_yields _ _).bind fun deadlocks => ?_
  intro x hx _ _ hrun
  exact ⟨counters, classes, threads, deadlocks, modifyMetrics_yields _ _ x hx _ _ hrun⟩

end

end Gauges

namespace Gauges

variable {ω : Type} (t : Transport ω) {g : Gauges} {s : Session} {w : ω}

/-- A reading of a session that ends well has read everything. -/
theorem read_of_readSession {g' : Gauges} {s' : Session} {w' : ω}
    (h : g.readSession t s w = (.ok (), g', s', w')) : Read g.metrics g'.metrics := by
  cases hc : s.connection with
  | none =>
    rw [readSession_of_none t hc] at h
    cases h
  | some c =>
    rcases hrun : (sample (Cache.source (t.source c.id)) s.lockUsage).run (g, c.cache.flush, w)
      with ⟨result, g₁, cache, w₁⟩
    rw [readSession_of_run t hc hrun] at h
    obtain ⟨rfl, rfl, -, -⟩ := by simpa only [Prod.mk.injEq] using h
    exact sample_yields _ _ _ _ rfl _ _ hrun

theorem readSession_state (g : Gauges) (s : Session) (w : ω) :
    (g.readSession t s w).2.2.1.state = s.state := by
  cases hc : s.connection with
  | none => rw [readSession_of_none t hc]
  | some c =>
    rcases hrun : (sample (Cache.source (t.source c.id)) s.lockUsage).run (g, c.cache.flush, w)
      with ⟨result, g₁, cache, w₁⟩
    rw [readSession_of_run t hc hrun]

/-- An update that leaves a session attached and well has found its peer and read everything. -/
theorem readSession_of_attached {id : InstanceId} {g' : Gauges} {s' : Session} {w' : ω}
    {result : Except MonitorError Unit} (h : g.update t id s w = (result, g', s', w'))
    (hs' : s'.state = .attached) : s.state.isAttached ∧ ∃ s₁ w₁ w₂,
      s.isLive t w = (true, s, w₁) ∧ g.readSession t s w₁ = (.ok (), g', s₁, w₂) := by
  cases way_of_update t h with
  | idle hs => simp [hs', SessionState.isAttached] at hs
  | lost hs hlive =>
    -- Nobody is found, so the session is over.
    have hstate := Session.isLive_state_of_false t hlive
    rw [SessionState.next_livenessLost (SessionState.not_isTerminal_of_isAttached hs)] at hstate
    cases hstate.symm.trans hs'
  | done hs hlive hread _ => exact ⟨hs, _, _, _, hlive, hread⟩
  | @failed g₁ s₁ _ w₁ w₂ _ _ hs _ hread happly =>
    have hs₁ := readSession_state t g s w₁
    have hstate := Session.apply_state t s₁ (.updateFailed (g₁.metrics.updateErrors + 1)) w₂
    rw [hread] at hs₁
    rw [happly, hs₁, SessionState.next_updateFailed hs] at hstate
    have hover := hstate.symm.trans hs'
    split_ifs at hover

theorem read_of_update {id : InstanceId} {g' : Gauges} {s' : Session} {w' : ω}
    {result : Except MonitorError Unit} (h : g.update t id s w = (result, g', s', w'))
    (hs' : s'.state = .attached) : Read g.metrics g'.metrics := by
  obtain ⟨-, s₁, w₁, w₂, -, hread⟩ := readSession_of_attached t h hs'
  exact read_of_readSession t hread

end Gauges

/-! ### The sample that is taken in -/

namespace Gauges

section

variable {σ : Type} (src : Source σ)

/-- The first part of a reading: the constants, unless they are known, and a complete set of counters. -/
def learnCounters : Exchange (Gauges × σ) Counters := do
  let cpuInHundredNanos ← learnRuntime src
  (readCounters src cpuInHundredNanos).beside Gauges

/-- What is read when the counters are taken in. -/
def readRest (lockUsage : Bool) : Exchange (Gauges × σ) Unit := do
  let classes ← src.totalLoadedClasses.beside Gauges
  modifyMetrics fun m => { m with loadedClasses := classes }
  let threads ← src.threadCount.beside Gauges
  modifyMetrics fun m => { m with threadCount := threads }
  let deadlocks ← (readDeadlocks src lockUsage).beside Gauges
  modifyMetrics fun m => { m with deadlocks := deadlocks }

theorem sample_eq (lockUsage : Bool) : sample src lockUsage = (do
    let counters ← learnCounters src
    modifyMetrics fun m => takeCounters m counters
    readRest src lockUsage) := by
  simp only [sample, learnCounters, readRest, bind_assoc]

/-- Nothing that is read after the counters moves the baseline. -/
theorem readRest_keeps_baseline (lockUsage : Bool) (b : RawSample) :
    Keeps (fun x : Gauges × σ => x.1.metrics.baseline = b) (readRest src lockUsage) := by
  have hbeside {α : Type} (x : Exchange σ α) :
      Keeps (fun x : Gauges × σ => x.1.metrics.baseline = b) (x.beside Gauges) :=
    Keeps.beside x fun g : Gauges => g.metrics.baseline = b
  refine (hbeside _).bind fun classes => Keeps.bind (fun _ h => h) fun _ => ?_
  refine (hbeside _).bind fun threads => Keeps.bind (fun _ h => h) fun _ => ?_
  exact (hbeside _).bind fun deadlocks _ h => h

theorem learnCounters_keeps_metrics (m : Metrics) : Keeps (Shows m) (learnCounters src) :=
  (learnRuntime_keeps_metrics src m).bind fun _ => Keeps.beside _ fun g : Gauges => g.metrics = m

variable {src} {lockUsage : Bool} {g g' : Gauges} {s s' : σ} {result : Except ConnectionError Unit}

/-- A reading moves the baseline to its own sample just if it comes to have all of the counters. -/
theorem baseline_of_sample (h : (sample src lockUsage).run (g, s) = (result, g', s')) :
    g'.metrics.baseline =
      (((learnCounters src).run (g, s)).1.toOption.map (·.sample)).getD g.metrics.baseline := by
  have hkeeps := learnCounters_keeps_metrics src g.metrics (g, s) rfl
  rw [sample_eq, run_bind] at h
  rcases hcounters : (learnCounters src).run (g, s) with ⟨e | counters, g₁, s₁⟩
  · rw [hcounters] at h hkeeps
    cases h
    exact congrArg Metrics.baseline hkeeps
  · rw [hcounters] at h
    have htaken := readRest_keeps_baseline src lockUsage counters.sample
      ({ g₁ with metrics := takeCounters g₁.metrics counters }, s₁) rfl
    have hrest : (readRest src lockUsage).run
        ({ g₁ with metrics := takeCounters g₁.metrics counters }, s₁) = (result, g', s') := h
    rw [hrest] at htaken
    exact htaken

/-- A reading that ends well has all of the counters. -/
theorem isSome_learnCounters (h : (sample src lockUsage).run (g, s) = (.ok (), g', s')) :
    ((learnCounters src).run (g, s)).1.toOption.isSome := by
  rw [sample_eq] at h
  obtain ⟨counters, x, hcounters, -⟩ := run_bind_eq_ok.1 h
  rw [hcounters]
  rfl

end

variable {ω : Type} (t : Transport ω)

/-- The sample that an update takes in, if it finds its peer and comes to have all of the counters. -/
def sampleTaken (g : Gauges) (s : Session) (w : ω) : Option RawSample :=
  match s.connection, s.isLive t w with
  | some c, (true, _, w) =>
    if s.state.isAttached then
      ((learnCounters (Cache.source (t.source c.id))).run (g, c.cache.flush, w)).1.toOption.map
        (·.sample)
    else none
  | _, _ => none

variable {t} {id : InstanceId} {g g' : Gauges} {s s' : Session} {w w' : ω}

theorem sampleTaken_of_idle (hs : s.state.isAttached = false) : g.sampleTaken t s w = none := by
  simp only [sampleTaken, hs, Bool.false_eq_true, if_false]
  split <;> rfl

theorem sampleTaken_of_lost (hlive : s.isLive t w = (false, s', w')) :
    g.sampleTaken t s w = none := by
  rw [sampleTaken, hlive]
  cases s.connection <;> rfl

/-- An update that finds its peer moves the baseline to the sample that it takes in. -/
theorem baseline_of_readSession {w₁ : ω} {result : Except ConnectionError Unit}
    (hs : s.state.isAttached) (hlive : s.isLive t w = (true, s, w₁))
    (h : g.readSession t s w₁ = (result, g', s', w')) :
    g'.metrics.baseline = (g.sampleTaken t s w).getD g.metrics.baseline ∧
      (result = .ok () → (g.sampleTaken t s w).isSome) := by
  obtain ⟨c, hc, -, -⟩ := Session.exists_connection_of_live t hlive
  rcases hrun : (sample (Cache.source (t.source c.id)) s.lockUsage).run (g, c.cache.flush, w₁)
    with ⟨result, g₁, cache, w₂⟩
  rw [readSession_of_run t hc hrun] at h
  cases h
  simp only [sampleTaken, hc, hlive, hs, if_true, Option.isSome_map]
  refine ⟨baseline_of_sample hrun, ?_⟩
  rintro rfl
  exact isSome_learnCounters hrun

/-- **The baseline** after an update is the sample that it has taken in, if it has, and else what it
was. -/
theorem baseline_of_update {result : Except MonitorError Unit}
    (h : g.update t id s w = (result, g', s', w')) :
    g'.metrics.baseline = (g.sampleTaken t s w).getD g.metrics.baseline := by
  cases way_of_update t h with
  | idle hs => rw [sampleTaken_of_idle hs, Option.getD_none]
  | lost hs hlive => rw [sampleTaken_of_lost hlive, Option.getD_none]
  | done hs hlive hread _ => exact (baseline_of_readSession hs hlive hread).1
  | failed hs hlive hread _ => exact (baseline_of_readSession hs hlive hread).1

end Gauges

namespace TrackedVm

variable {ω : Type} (t : Transport ω) {vm : TrackedVm} {world : World ω}

/-- An instance that is attached and well after an update has been read completely by it. -/
theorem read_of_update
    (hs' : (vm.update t world).2.1.state (vm.update t world).2.2.registry = .attached) :
    Gauges.Read vm.metrics (vm.update t world).2.1.metrics := by
  cases hsession : world.registry.session? vm.session with
  | none => simp [update_of_no_session t hsession, state, hsession] at hs'
  | some s =>
    rcases hu : vm.gauges.update t vm.id s world.peers with ⟨result, g', s', w'⟩
    rw [update_of_session t hsession hu] at hs' ⊢
    exact Gauges.read_of_update t hu
      ((state_of_some (Registry.session?_put_self hsession)).symm.trans hs')

/-- The sample that an update of the instance takes in. -/
def sampleTaken (vm : TrackedVm) (world : World ω) : Option RawSample :=
  (world.registry.session? vm.session).bind fun s => vm.gauges.sampleTaken t s world.peers

/-- **The baseline** after an update of an instance is the sample that it has taken in, if it has, and
else what it was. -/
theorem baseline_of_update : (vm.update t world).2.1.metrics.baseline =
    (vm.sampleTaken t world).getD vm.metrics.baseline := by
  cases hsession : world.registry.session? vm.session with
  | none =>
    rw [update_of_no_session t hsession, sampleTaken, hsession]
    rfl
  | some s =>
    rcases hu : vm.gauges.update t vm.id s world.peers with ⟨result, g', s', w'⟩
    rw [update_of_session t hsession hu, sampleTaken, hsession]
    exact Gauges.baseline_of_update hu

/-- An update that leaves an instance attached and well has taken a sample in, which is shown. -/
theorem sampleTaken_of_attached
    (hs' : (vm.update t world).2.1.state (vm.update t world).2.2.registry = .attached) :
    vm.sampleTaken t world = some (vm.update t world).2.1.metrics.counters := by
  have hsome : (vm.sampleTaken t world).isSome := by
    cases hsession : world.registry.session? vm.session with
    | none => simp [update_of_no_session t hsession, state, hsession] at hs'
    | some s =>
      rcases hu : vm.gauges.update t vm.id s world.peers with ⟨result, g', s', w'⟩
      rw [update_of_session t hsession hu] at hs'
      obtain ⟨hs, s₁, w₁, w₂, hlive, hread⟩ := Gauges.readSession_of_attached t hu
        ((state_of_some (Registry.session?_put_self hsession)).symm.trans hs')
      rw [sampleTaken, hsession]
      exact (Gauges.baseline_of_readSession hs hlive hread).2 rfl
  obtain ⟨sample, hsample⟩ := Option.isSome_iff_exists.1 hsome
  have hbaseline := @baseline_of_update _ t vm world
  rw [(read_of_update t hs').baseline_eq, hsample, Option.getD_some] at hbaseline
  rw [hsample, hbaseline]

end TrackedVm

end VmMonitor
