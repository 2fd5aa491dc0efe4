import VmMonitor.Proofs.Instance.FailedUpdates
import VmMonitor.Proofs.Instance.SteadyState
import VmMonitor.Proofs.Scenario.Refinement
import VmMonitor.Scenario.Text

/-!
# Collectors that are told apart by their names

The totals over the collectors are read one collector at a time, each by a name that was made of its
own. A scenario may call its collectors anything. What answers for a collector is the first one of the
sample that is called what stands before the first comma of its name: itself, if no other is called
the same and there is no comma, but else a namesake, counted in its place, or nobody, and then the
whole update fails.

## What is proved

* `Sample.exists_answeredBy` — collectors that are all answered for are answered for one by one.
* `Gauges.told_of_readsCounters` — **no set of counters is complete** without every listed collector.
* `TrackedVm.collector_totals` — **the totals** after an update, whatever the collectors are called.
-/

namespace VmMonitor

open Exchange

/-! ### Collectors that are answered for -/

/-- Something for each member makes a list of the same length. -/
theorem exists_forall₂ {α β : Type} {R : α → β → Prop} {xs : List α} (h : ∀ x ∈ xs, ∃ y, R x y) :
    ∃ ys, List.Forall₂ R xs ys := by
  induction xs with
  | nil => exact ⟨[], .nil⟩
  | cons x xs ih =>
    obtain ⟨y, hy⟩ := h x (.head _)
    obtain ⟨ys, hys⟩ := ih fun x' hx' => h x' (.tail _ hx')
    exact ⟨y :: ys, .cons hy hys⟩

/-- Collectors that are all answered for are answered for one by one. -/
theorem Sample.exists_answeredBy {s : Sample} (h : ∀ g ∈ s.gc, (s.answering? g.name).isSome) :
    ∃ gs, s.AnsweredBy gs :=
  exists_forall₂ fun g hg => Option.isSome_iff_exists.1 (h g hg)

/-- Nothing can be read of a collector that nobody answers for. -/
theorem Replay.answering?_of_readable {i : ScenarioInstance} {cycle : Nat}
    (hvisible : i.isVisible cycle) (hs : (i.sampleAt cycle).Intact) {name n : String}
    {v : AttributeValue} (h : readable i cycle (.garbageCollector name) n = some v) :
    ((i.sampleAt cycle).answering? name).isSome := by
  rw [readable, current_of_intact hvisible hs rfl rfl, toOption_eq_some_iff,
    readValue_garbageCollector hs] at h
  cases hg : (i.sampleAt cycle).answering? name with
  | some g => rfl
  | none => simp [hg] at h

/-! ### Complete sets of counters -/

namespace Gauges

variable {σ : Type} {src : Source σ} {P : σ → Prop} {value : Readable} {g g' : Gauges} {s s' : σ}

/-- A reading that comes to its end has read a complete set of counters. -/
theorem readsCounters_of_sample {lockUsage : Bool}
    (h : (sample src lockUsage).run (g, s) = (.ok (), g', s')) :
    ∃ counters s₁, ReadsCounters src g s counters s₁ := by
  obtain ⟨hundred, ⟨g₁, s₁⟩, hlearn, h⟩ := run_bind_eq_ok.1 h
  obtain ⟨counters, ⟨g₂, s₂⟩, hcounters, -⟩ := run_bind_eq_ok.1 h
  obtain ⟨hread, -⟩ := run_beside_eq_iff.1 hcounters
  exact ⟨counters, s₂, hundred, g₁, s₁, hlearn, complete_of_readCounters hread⟩

theorem kept_of_long (ht : src.Tells P value) {o : ObjectName} {n : String} {v : Int}
    (h : (src.long o n).run s = (.ok v, s')) (hs : P s) : P s' := by
  have hasks : src.Alike (Same P) src := fun r => Keeps.alike (ht.keeps r)
  have hkept := (hasks.long o n).keeps s hs
  rwa [h] at hkept

/-- Of collectors that are read one after the other, the time of each can be read. -/
theorem told_of_inTurn (ht : src.Tells P value) {os : List ObjectName} {each : List (Int × Int)}
    (h : InTurn (readCollector src) os s each s') (hs : P s) :
    ∀ o ∈ os, ∃ v, value o "CollectionTime" = some v := by
  induction h with
  | nil => simp
  | @cons o os s s' s'' a as hread _ ih =>
    obtain ⟨time, s₁, htime, hrest⟩ := run_bind_eq_ok.1 hread
    obtain ⟨count, s₂, hcount, hdone⟩ := run_bind_eq_ok.1 hrest
    obtain ⟨-, rfl⟩ := Prod.mk.inj hdone
    have hs' := kept_of_long ht hcount (kept_of_long ht htime hs)
    obtain ⟨v, s₃, hask, -⟩ := run_bind_eq_ok.1 htime
    intro o' ho'
    rcases List.mem_cons.1 ho' with rfl | ho'
    · exact ⟨v, (ht.single hs _ _ _).1 (by rw [hask])⟩
    · exact ih hs' o' ho'

/-- **No set of counters is complete** without every listed collector. -/
theorem told_of_readsCounters (ht : src.Tells P value) {os : List ObjectName}
    (hlist : Gives P src.garbageCollectors os P) {counters : Counters}
    (h : ReadsCounters src g s counters s') (hs : P s) :
    ∀ o ∈ os, ∃ v, value o "CollectionTime" = some v := by
  have hasks : src.Alike (Same P) src := fun r => Keeps.alike (ht.keeps r)
  obtain ⟨hundred, g₁, s₁, hlearn, hcomplete⟩ := h
  have hs₁ := hasks.learnRuntime.keeps_behind (g, s) hs
  rw [hlearn] at hs₁
  cases hcomplete with
  | read hprocessors huptime hcpu hcollectors hcs _ _ =>
    have hs₂ := kept_of_long ht hprocessors hs₁
    have hs₃ := kept_of_long ht huptime hs₂
    have hs₄ := kept_of_long ht hcpu hs₃
    obtain ⟨s₅, hgiven, hs₅⟩ := hlist _ hs₄
    obtain ⟨hos, rfl⟩ := Prod.mk.inj (hgiven.symm.trans hcollectors)
    obtain rfl := Except.ok.inj hos
    exact told_of_inTurn ht hcs hs₅

/-! ### Updates over an intact sample -/

section

variable {a : ScenarioInstance} {ses s' : Session} {c : Connection} {r r' : Replay} {id : InstanceId}
  {result : Except MonitorError Unit}
  (hs : ses.state.isAttached) (hc : ses.connection = some c)
  (hx : r.connections[c.id]? = some ⟨a, true, false⟩) (hvisible : a.isVisible r.cycle)
  (hintact : (a.sampleAt r.cycle).Intact)
  (hu : g.update Replay.transport id ses r = (result, g', s', r'))
include hs hc hx hvisible hintact hu

/-- If every collector is answered for, an update ends well and shows the totals over those that
answer. -/
theorem update_answered {gs : List GcSample} (hgs : (a.sampleAt r.cycle).AnsweredBy gs) :
    result = .ok () ∧ g'.metrics.gcTimeMs = Counter.wrap (gs.map (·.timeMs)).sum ∧
      g'.metrics.gcCount = Counter.wrap (gs.map (·.count)).sum := by
  obtain ⟨r₁, halive, hcycle, hx₁⟩ := Replay.isAlive_of_intact hx hvisible hintact
  have hserves := Source.Serves.cached_replay c.id hvisible hintact
  obtain ⟨hundred, hlearn⟩ := hserves.exists_learned hintact g
  have hread := hserves.sample_of_learned (K := (· = g)) (R := fun _ => True) hintact hgs hlearn
    ses.lockUsage
  obtain ⟨⟨g₁, cache, r₂⟩, hrun, ⟨hmetrics, -⟩, -⟩ := hread (g, c.cache.flush, r₁)
    ⟨rfl, Cache.coherent_flush c.cache, hcycle, _, hx₁, rfl, rfl⟩
  rw [update_of_run hs hc halive hrun] at hu
  cases hu
  refine ⟨rfl, ?_, ?_⟩
  · exact (congrArg (·.gcTimeMs) hmetrics).trans (Metrics.apply_gcTimeMs ..)
  · exact congrArg (·.gcCount) hmetrics

/-- If some collector is not, the update fails, and all that it leaves is that it is counted. -/
theorem update_unanswered
    (hgs : ¬ ∀ g ∈ (a.sampleAt r.cycle).gc, ((a.sampleAt r.cycle).answering? g.name).isSome) :
    result ≠ .ok () ∧
      g'.metrics = { g.metrics with updateErrors := g.metrics.updateErrors + 1 } := by
  obtain ⟨r₁, halive, hcycle, hx₁⟩ := Replay.isAlive_of_intact hx hvisible hintact
  have hlist : Gives _ (Cache.source (Replay.transport.source c.id)).garbageCollectors _ _ :=
    (Source.Serves.cached_replay c.id hvisible hintact).query .garbageCollectors
  rw [Replay.registered_collectors] at hlist
  -- A complete set of counters would have read the collector that nobody answers for.
  have hnone {counters : Counters} {y : Cache × Replay} :
      ¬ ReadsCounters (Cache.source (Replay.transport.source c.id)) g (c.cache.flush, r₁) counters y := by
    intro hcounted
    have htold := told_of_readsCounters (Replay.tells c.id a r.cycle).cached hlist hcounted
      ⟨Cache.coherent_flush c.cache, hcycle, _, hx₁, rfl, rfl⟩
    refine hgs fun g hg => ?_
    obtain ⟨v, hv⟩ := htold _ (List.mem_map_of_mem hg)
    exact Replay.answering?_of_readable hvisible hintact hv
  cases result with
  | ok =>
    obtain ⟨r₂, cache, halive', hrun, -⟩ := run_of_update_eq_ok hs hc hu
    obtain ⟨-, rfl⟩ := Prod.mk.inj (halive.symm.trans halive')
    obtain ⟨counters, y, hcounted⟩ := readsCounters_of_sample hrun
    exact absurd hcounted hnone
  | error e =>
    have hlive : ses.isLive Replay.transport r = (true, ses, r₁) :=
      Session.isLive_of_alive hc halive
    obtain ⟨c', m, hc', hpartly, hm⟩ := partly_of_update hs hlive hu
    obtain rfl := Option.some_inj.1 (hc.symm.trans hc')
    refine ⟨nofun, ?_⟩
    cases hpartly with
    | nothing => exact hm
    | counters hcounted => exact absurd hcounted hnone
    | classes hcounted _ => exact absurd hcounted hnone
    | threads hcounted _ _ => exact absurd hcounted hnone

end

end Gauges

/-! ### The totals -/

/-- An instance that says the same of its collectors in every cycle. -/
def ScenarioInstance.collecting (gcs : List GcSample) : ScenarioInstance :=
  { pid := 7, samples := [{ gc := gcs }] }

namespace TrackedVm

variable {vm vm' : TrackedVm} {world world' : World Replay}

/-- **The totals over the collectors.** An instance is attached over an open connection, and its sample
is intact. The update ends well just if every collector is answered for by some collector, and then
shows the totals over those that answer, as 64 bits keep them; otherwise it is counted as failed, and
leaves the metrics as they were. So the totals are those over the whole list, if the collectors are told
apart by their names and no name has a comma. -/
theorem collector_totals {s : Session} {c : Connection} {a : ScenarioInstance}
    {result : Except MonitorError Unit} (hsession : world.registry.session? vm.session = some s)
    (hs : s.state.isAttached) (hc : s.connection = some c)
    (hx : world.peers.connections[c.id]? = some ⟨a, true, false⟩)
    (hvisible : a.isVisible world.peers.cycle) (hintact : (a.sampleAt world.peers.cycle).Intact)
    (h : vm.update Replay.transport world = (result, vm', world')) :
    let sample := a.sampleAt world.peers.cycle
    (result = .ok () ↔ ∀ g ∈ sample.gc, (sample.answering? g.name).isSome) ∧
    (∀ gs, sample.AnsweredBy gs → vm'.metrics.gcTimeMs = Counter.wrap (gs.map (·.timeMs)).sum ∧
      vm'.metrics.gcCount = Counter.wrap (gs.map (·.count)).sum) ∧
    (result ≠ .ok () → vm'.metrics =
      { vm.metrics with updateErrors := vm.metrics.updateErrors + 1 }) ∧
    ((sample.gc.map (·.name)).Nodup → (∀ g ∈ sample.gc, ',' ∉ g.name.toList) →
      result = .ok () ∧ vm'.metrics.gcTimeMs = Counter.wrap (sample.gc.map (·.timeMs)).sum ∧
        vm'.metrics.gcCount = Counter.wrap (sample.gc.map (·.count)).sum) := by
  intro sample
  rcases hu : vm.gauges.update Replay.transport vm.id s world.peers with ⟨result', g', s', r'⟩
  simp only [update, World.onSession_of_some hsession, hu, Prod.mk.injEq] at h
  obtain ⟨rfl, rfl, -⟩ := h
  have hanswered {gs : List GcSample} (hgs : sample.AnsweredBy gs) :=
    Gauges.update_answered hs hc hx hvisible hintact hu hgs
  have hunanswered := Gauges.update_unanswered hs hc hx hvisible hintact hu
  refine ⟨⟨fun hok => ?_, fun hall => ?_⟩, fun gs hgs => (hanswered hgs).2, fun hfails => ?_, ?_⟩
  · by_contra hgs
    exact (hunanswered hgs).1 hok
  · obtain ⟨gs, hgs⟩ := Sample.exists_answeredBy hall
    exact (hanswered hgs).1
  · refine (hunanswered fun hall => ?_).2
    obtain ⟨gs, hgs⟩ := Sample.exists_answeredBy hall
    exact hfails (hanswered hgs).1
  · intro hdistinct hcommaFree
    have hsound : sample.Sound :=
      ⟨hintact.answers, hintact.lives, hintact.whole, hdistinct, hcommaFree⟩
    exact hanswered hsound.answeredBy

/-- The only instance of a scenario, attached but not updated yet. -/
def settledAlone (i : ScenarioInstance) : TrackedVm × World Replay :=
  settle Replay.transport i.descriptor ⟨{}, Replay.new ⟨none, [i]⟩⟩

/-- Its first update. -/
def updatedAlone (i : ScenarioInstance) : Except MonitorError Unit × TrackedVm × World Replay :=
  (settledAlone i).1.update Replay.transport (settledAlone i).2

/-- Two collectors that are told apart by their names. -/
theorem collector_totals_of_two : ∃ s, ∃ c : Connection, ∃ vm world,
    let i : ScenarioInstance := .collecting [⟨"G1 Young", 5, 1⟩, ⟨"G1 Old", 7, 2⟩]
    (settledAlone i).2.registry.session? (settledAlone i).1.session = some s ∧ s.connection = some c ∧
      updatedAlone i = (.ok (), vm, world) ∧ vm.metrics.gcTimeMs = 12 ∧ vm.metrics.gcCount = 3 := by
  let i : ScenarioInstance := .collecting [⟨"G1 Young", 5, 1⟩, ⟨"G1 Old", 7, 2⟩]
  rcases hu : updatedAlone i with ⟨result, vm, world⟩
  obtain ⟨-, -, -, hnames⟩ := collector_totals (a := i) rfl rfl rfl rfl rfl ⟨rfl, rfl, rfl⟩ hu
  obtain ⟨rfl, htime, hcount⟩ := hnames (by decide) (by decide)
  exact ⟨_, _, vm, world, rfl, rfl, hu, htime, hcount⟩

/-- A name with a comma, and a namesake: both scenarios can be read, and both samples are intact. The
update of the one fails, and shows nothing of its collector; that of the other ends well, and shows the
first collector twice. -/
theorem totals_of_comma_and_namesake :
    ∃ comma namesake : ScenarioInstance,
      Scenario.ofYaml ("instances:\n- pid: 7\n  samples:\n  - gc:\n" ++
        "    - name: G1,Young\n      time_ms: 5\n") = .ok ⟨none, [comma]⟩ ∧
      (comma.sampleAt 0).gc = [⟨"G1,Young", 5, 0⟩] ∧ (comma.sampleAt 0).Intact ∧
      ¬ (updatedAlone comma).1.isOk ∧ (updatedAlone comma).2.1.metrics.gcTimeMs = 0 ∧
      Scenario.ofYaml ("instances:\n- pid: 7\n  samples:\n  - gc:\n" ++
        "    - name: G1\n      time_ms: 5\n    - name: G1\n      time_ms: 7\n") =
          .ok ⟨none, [namesake]⟩ ∧
      (namesake.sampleAt 0).gc = [⟨"G1", 5, 0⟩, ⟨"G1", 7, 0⟩] ∧ (namesake.sampleAt 0).Intact ∧
      (updatedAlone namesake).1.isOk ∧ (updatedAlone namesake).2.1.metrics.gcTimeMs = 10 := by
  refine ⟨.collecting [⟨"G1,Young", 5, 0⟩], .collecting [⟨"G1", 5, 0⟩, ⟨"G1", 7, 0⟩], ?_⟩
  refine ⟨?_, rfl, ⟨rfl, rfl, rfl⟩, ?_, ?_, ?_, rfl, ⟨rfl, rfl, rfl⟩, ?_, ?_⟩ <;> decide +kernel

end TrackedVm

end VmMonitor
