import VmMonitor.Proofs.Metrics
import VmMonitor.Proofs.Scenario.Isolation
import VmMonitor.Proofs.Scenario.SoundSample

/-!
# What is shown of a sound instance

Between the samples in a scenario and the row of an instance there are discovery, the registry, the
session, the cache and the reading of some fifteen attributes. Of an instance that nothing goes wrong
with, the row shows what taking the samples in one after the other gives: one sample per cycle, the
first one twice, because an instance is updated as soon as it is attached and again with all the
others.

## What is proved

* `Gauges.update_of_reaches`, `Session.connect_reaches` — an update and an attempt to connect.
* `TrackedVm.WellRead.updated`, `TrackedVm.WellRead.arrived` — the same of a tracked instance.
* `Replay.refines` — **the row** of the instance in every cycle.
-/

namespace VmMonitor

open Exchange

/-! ### Sessions -/

namespace Replay

variable {a : ScenarioInstance} {c : ConnectionId} {r : Replay}

/-- A check of a connection to an instance that lives finds somebody and changes nothing. -/
theorem isAlive_of_intact (hx : r.connections[c]? = some ⟨a, true, false⟩)
    (hvisible : a.isVisible r.cycle) (hs : (a.sampleAt r.cycle).Intact) :
    ∃ r', transport.isAlive c r = (true, r') ∧ r'.cycle = r.cycle ∧
      r'.connections[c]? = some ⟨a, true, false⟩ := by
  have hlives : livesIn ⟨a, true, false⟩ r.cycle = true := by
    simp [livesIn, hvisible, hs.lives]
  change ∃ r', r.isAlive c = (true, r') ∧ _
  rw [isAlive_eq, hx, Option.any_some, hlives]
  refine ⟨_, rfl, rfl, ?_⟩
  simp [hx, checked, hlives]

end Replay

namespace Session

/-- The session is attached, over a connection behind which the instance lives. -/
structure Reaches (s : Session) (a : ScenarioInstance) (r : Replay) : Prop where
  attached : s.state = .attached
  lockUsage : s.lockUsage = a.lockUsageSupported
  line : ∃ c, s.connection = some c ∧ r.connections[c.id]? = some ⟨a, true, false⟩

variable {a : ScenarioInstance} {s s' : Session} {r r' : Replay}

/-- Whom a session reaches is seen at its seat. -/
theorem Reaches.of_seat (h : s.Reaches a r) (hseat : s.seat r = s'.seat r') : s'.Reaches a r' := by
  obtain ⟨c, hc, hx⟩ := h.line
  rcases seat_elim hseat with ⟨hnone, -⟩ | ⟨c₁, c₂, hc₁, rfl, -, hline⟩
  · simp [hnone] at hc
  · obtain rfl : c₁ = c := Option.some_inj.1 (hc₁.symm.trans hc)
    exact ⟨h.attached, h.lockUsage, c₂, rfl, hline ▸ hx⟩

/-- **A first attempt to connect** that meets the instance reaches it. -/
theorem connect_reaches (hs : s.state = .init) (hc : s.connection = none)
    (hmeet : r.meet s.endpoint = .ok (a, true)) (hvisible : a.isVisible r.cycle)
    (hsound : (a.sampleAt r.cycle).Sound) :
    (s.connect Replay.transport r).2.1.Reaches a (s.connect Replay.transport r).2.2 := by
  have hopen := Replay.connect_of_ok hmeet
  generalize hr₁ : ({ r with connections := _, stats := _ } : Replay) = r₁ at hopen
  have hcycle : r₁.cycle = r.cycle := hr₁ ▸ rfl
  have hx₁ : r₁.connections[r.connections.length]? = some ⟨a, true, false⟩ := by
    subst hr₁
    simp
  obtain ⟨r₂, halive, hcycle₂, hx₂⟩ := Replay.isAlive_of_intact hx₁ (hcycle ▸ hvisible)
    (hcycle ▸ hsound.intact)
  have hholds : Replay.Holds r.connections.length a r.cycle r₂ :=
    ⟨hcycle₂.trans hcycle, _, hx₂, rfl, rfl⟩
  obtain ⟨r₃, hprobe, -⟩ := (Replay.serves _ hvisible hsound.intact).probe hsound.intact r₂ hholds
  rcases connect_cases Replay.transport hs hc r with
    ⟨e, w, ho, -⟩ | ⟨c, w, alive, w₂, ho, ha, hrest⟩
  · cases hopen.symm.trans ho
  · obtain ⟨rfl, rfl⟩ : r.connections.length = c ∧ r₁ = w := by
      have hpair := hopen.symm.trans ho
      simp only [Prod.mk.injEq, Except.ok.injEq] at hpair
      exact hpair
    obtain ⟨rfl, rfl⟩ := Prod.mk.inj (halive.symm.trans ha)
    rcases hrest with ⟨hdead, -⟩ | ⟨-, e, w₃, hp, -⟩ | ⟨-, lockUsage, w₃, hp, hkept⟩
    · cases hdead
    · cases hprobe.symm.trans hp
    · have hquiet := quiet_probe r.connections.length r₂
      rw [hp] at hquiet
      obtain ⟨hlock, -⟩ := Prod.mk.inj (hprobe.symm.trans hp)
      rw [hkept]
      refine ⟨rfl, (Except.ok.inj hlock).symm, _, rfl, ?_⟩
      rw [hquiet.connections]
      exact hx₂

end Session

/-! ### Updates -/

namespace Gauges

variable {a : ScenarioInstance} {g : Gauges} {s : Session} {r : Replay} {m : Metrics}

/-- A reading over a connection to a sound instance takes its sample in. -/
theorem readSession_of_sound {c : Connection} (hc : s.connection = some c)
    (hlock : s.lockUsage = a.lockUsageSupported)
    (hx : r.connections[c.id]? = some ⟨a, true, false⟩) (hg : g.Knows a m)
    (hvisible : a.isVisible r.cycle) (hsound : (a.sampleAt r.cycle).Sound) :
    ∃ g' cache r', g.readSession Replay.transport s r =
        (.ok (), g', { s with connection := some { c with cache } }, r') ∧
      g'.Knows a (a.take (a.sampleAt r.cycle) m) ∧ Replay.Quiet r r' := by
  obtain ⟨⟨g', cache, r'⟩, hrun, hg', -⟩ := (Source.Serves.cached_replay c.id hvisible
    hsound.intact).sample hsound m (g, c.cache.flush, r)
    ⟨hg, Cache.coherent_flush c.cache, rfl, _, hx, rfl, rfl⟩
  have hquiet := quiet_sample c.id a.lockUsageSupported g c.cache.flush r
  rw [hrun] at hquiet
  exact ⟨g', cache, r', readSession_of_run _ hc (hlock ▸ hrun), hg', hquiet⟩

/-- **An update** over a session that reaches a sound instance takes its sample in, and reaches it
after that. -/
theorem update_of_reaches (hs : s.Reaches a r) (hg : g.Knows a m) (hvisible : a.isVisible r.cycle)
    (hsound : (a.sampleAt r.cycle).Sound) (id : InstanceId) :
    (g.update Replay.transport id s r).2.1.Knows a (a.take (a.sampleAt r.cycle) m) ∧
      (g.update Replay.transport id s r).2.2.1.Reaches a (g.update Replay.transport id s r).2.2.2 := by
  obtain ⟨c, hc, hx⟩ := hs.line
  obtain ⟨r₁, halive, hcycle, hx₁⟩ := Replay.isAlive_of_intact hx hvisible hsound.intact
  obtain ⟨g', cache, r₂, hread, hg', hquiet⟩ := readSession_of_sound hc hs.lockUsage hx₁ hg
    (hcycle ▸ hvisible) (hcycle ▸ hsound)
  have hattached : s.state.isAttached := by rw [hs.attached]; rfl
  have hlive : s.isLive Replay.transport r = (true, s, r₁) := Session.isLive_of_alive hc halive
  have hnext := SessionState.next_updateSucceeded hattached
  rw [update_of_done hattached hlive hread,
    Session.apply_of_next_not_isTerminal _ (by simp [hnext, SessionState.isTerminal])]
  rw [hcycle] at hg'
  exact ⟨hg', hnext, hs.lockUsage, _, rfl, hquiet.connections ▸ hx₁⟩

end Gauges

/-! ### The tracked instance -/

namespace TrackedVm

/-- The instance is tracked, its metrics are `m`, and it is reached. -/
structure WellRead (a : ScenarioInstance) (m : Metrics) (vm : TrackedVm) (world : World Replay) :
    Prop where
  descriptor : vm.descriptor = a.descriptor
  knows : vm.gauges.Knows a m
  reached : ∃ s, world.registry.session? vm.session = some s ∧ s.Reaches a world.peers

namespace WellRead

variable {a : ScenarioInstance} {m : Metrics} {vm vm' : TrackedVm} {world world' : World Replay}

theorem of_standing (h : WellRead a m vm world) (hst : vm'.standing world' = vm.standing world) :
    WellRead a m vm' world' := by
  obtain ⟨s, hs, hreaches⟩ := h.reached
  simp only [standing, Prod.mk.injEq, World.seat, hs, Option.map_some, Option.map_eq_some_iff] at hst
  obtain ⟨hdescriptor, hgauges, s', hs', hseat⟩ := hst
  exact ⟨hdescriptor.trans h.descriptor, hgauges ▸ h.knows, s', hs', hreaches.of_seat hseat.symm⟩

/-- The row of such an instance. -/
theorem row_eq (h : WellRead a m vm world) : (vm.row world.registry).id = a.pid ∧
    (vm.row world.registry).state = .attached ∧ (vm.row world.registry).metrics = m := by
  obtain ⟨s, hs, hreaches⟩ := h.reached
  exact ⟨congrArg VmDescriptor.id h.descriptor, (state_of_some hs).trans hreaches.attached, h.knows.1⟩

/-- **An update** takes the sample of the cycle in. -/
theorem update (h : WellRead a m vm world) (hvisible : a.isVisible world.peers.cycle)
    (hsound : (a.sampleAt world.peers.cycle).Sound) :
    WellRead a (a.take (a.sampleAt world.peers.cycle) m) (vm.update Replay.transport world).2.1
      (vm.update Replay.transport world).2.2 := by
  obtain ⟨s, hs, hreaches⟩ := h.reached
  obtain ⟨hknows, hreaches'⟩ := Gauges.update_of_reaches hreaches h.knows hvisible hsound vm.id
  simp only [TrackedVm.update, World.onSession_of_some hs]
  exact ⟨h.descriptor, hknows, _, Registry.session?_put_self hs, hreaches'⟩

/-- **A new instance** that can be attached to is reached and read at once. -/
theorem attach (hattachable : a.attachable) (hnone : world.registry.get? a.pid = none)
    (hmeet : world.peers.meet a.address = .ok (a, true)) (ha : world.Apart)
    (hvisible : a.isVisible world.peers.cycle) (hsound : (a.sampleAt world.peers.cycle).Sound) :
    WellRead a (a.take (a.sampleAt world.peers.cycle) Metrics.initial)
      (TrackedVm.attach Replay.transport a.descriptor world).1
      (TrackedVm.attach Replay.transport a.descriptor world).2 := by
  have hcycle := (spares_settle (d := a.descriptor) ha hnone).1.cycle
  have hsettle : WellRead a Metrics.initial (settle Replay.transport a.descriptor world).1
      (settle Replay.transport a.descriptor world).2 := by
    rw [settle_eq hnone, World.onSession_of_some (session?_opened a.descriptor world)]
    have hconnect := Session.connect_reaches (s := Session.new a.pid a.address) rfl rfl hmeet hvisible
      hsound
    have hgreet : (greet a.descriptor (Session.new a.pid a.address) world.peers).2 =
        ((Session.new a.pid a.address).connect Replay.transport world.peers).2 := if_pos hattachable
    refine ⟨rfl, ⟨rfl, fun info hinfo => by cases hinfo⟩, _,
      Registry.session?_put_self (session?_opened a.descriptor world), ?_⟩
    exact hgreet ▸ hconnect
  have hstate : (settle Replay.transport a.descriptor world).1.state
      (settle Replay.transport a.descriptor world).2.registry = .attached := hsettle.row_eq.2.1
  rw [attach_eq, if_pos hstate]
  have hupdate := hsettle.update (hcycle ▸ hvisible) (hcycle ▸ hsound)
  rwa [hcycle] at hupdate

end WellRead

end TrackedVm

/-! ### Samples, one after the other -/

namespace Metrics

/-- What is no part of the comparison makes no difference to it. -/
theorem apply_dress (m : Metrics) (a : ScenarioInstance) (s : Sample) (raw : RawSample)
    (processors : Int) : (a.dress s m).apply raw processors = a.dress s (m.apply raw processors) := by
  by_cases h : m.Compares raw.gcTimeMs
  · have h' : (a.dress s m).Compares raw.gcTimeMs := h
    rw [apply_of_compares processors h, apply_of_compares processors h']
    rfl
  · have h' : ¬ (a.dress s m).Compares raw.gcTimeMs := h
    rw [apply_of_not_compares processors h, apply_of_not_compares processors h']
    rfl

end Metrics

namespace ScenarioInstance

variable (a : ScenarioInstance)

/-- The metrics after the samples of some cycles were taken in one after the other, and nothing else
was read. -/
def folded (cycles : List Nat) : Metrics :=
  cycles.foldl (fun m c => m.apply (a.raw (a.sampleAt c)) a.processors) Metrics.initial

/-- The cycles from `c₀` to `c₀ + k`, the first of them twice. -/
def cyclesTo (c₀ k : Nat) : List Nat := c₀ :: (List.range (k + 1)).map (c₀ + ·)

/-- What is shown after the cycle `c₀ + k`: the counters of all samples since the cycle `c₀` taken in,
and what else the last sample says. -/
def shownAfter (c₀ k : Nat) : Metrics :=
  a.dress (a.sampleAt (c₀ + k)) (a.folded (cyclesTo c₀ k))

theorem folded_concat (cycles : List Nat) (c : Nat) :
    a.folded (cycles ++ [c]) = (a.folded cycles).apply (a.raw (a.sampleAt c)) a.processors := by
  simp [folded]

theorem folded_updateErrors (cycles : List Nat) : (a.folded cycles).updateErrors = 0 := by
  induction cycles using List.reverseRecOn with
  | nil => rfl
  | append_singleton cycles c ih => rw [folded_concat, Metrics.apply_updateErrors, ih]

/-- The first two updates take the same sample in. -/
theorem take_take_initial (c₀ : Nat) :
    a.take (a.sampleAt c₀) (a.take (a.sampleAt c₀) Metrics.initial) = a.shownAfter c₀ 0 := by
  have hfolded : a.folded (cyclesTo c₀ 0) = (Metrics.initial.apply (a.raw (a.sampleAt c₀))
      a.processors).apply (a.raw (a.sampleAt c₀)) a.processors := rfl
  rw [shownAfter, hfolded, take, take, Metrics.apply_dress]
  rfl

/-- Every further update takes one sample more in. -/
theorem take_shownAfter (c₀ k : Nat) :
    a.take (a.sampleAt (c₀ + (k + 1))) (a.shownAfter c₀ k) = a.shownAfter c₀ (k + 1) := by
  have hcycles : cyclesTo c₀ (k + 1) = cyclesTo c₀ k ++ [c₀ + (k + 1)] := by
    simp [cyclesTo, List.range_succ (n := k + 1)]
  rw [shownAfter, shownAfter, hcycles, folded_concat, take, Metrics.apply_dress]
  rfl

end ScenarioInstance

/-! ### Cycles -/

namespace Scenario

/-- Nothing goes wrong with the instance between the cycles `c₀` and `c₀ + n`: the scenario is valid,
no other instance is reached where this one is, it can be attached to, `c₀` is the first cycle in
which a listing is due and the instance is visible, it stays visible, listings do not fail, and its
samples are sound. -/
structure Undisturbed (s : Scenario) (a : ScenarioInstance) (interval c₀ n : Nat) : Prop where
  houses : s.Houses a
  attachable : a.attachable
  connects : a.connect = .ok
  due : c₀ % max interval 1 = 0
  first : ∀ c < c₀, c % max interval 1 = 0 → a.isVisible c = false
  visible : ∀ c, c₀ ≤ c → c ≤ c₀ + n → a.isVisible c
  lists : ∀ c, c₀ ≤ c → c ≤ c₀ + n → c % max interval 1 = 0 →
    ∀ f, s.discoveryFailsAt = some f → c < f
  sound : ∀ c, c₀ ≤ c → c ≤ c₀ + n → (a.sampleAt c).Sound

end Scenario

namespace Replay

variable {a : ScenarioInstance} {s : Scenario} {interval c₀ n : Nat}

theorem meet_of_connects {r : Replay} (h : r.scenario.Houses a) (hvisible : a.isVisible r.cycle)
    (hconnects : a.connect = .ok) : r.meet a.address = .ok (a, true) := by
  simp [meet, target?_of_houses h, hvisible, hconnects]

end Replay

namespace Monitor

/-- The cycle that begins with the monitor `m` and the replay `r` returns one row of the instance,
which is attached and shows the metrics `μ`, and the instance is well read after it. -/
structure Shows (a : ScenarioInstance) (μ : Metrics) (m : Monitor) (r : Replay) : Prop where
  row : ∃ rows row, (m.cycle Replay.transport Replay.directory r).1 = .ok rows ∧
    rows.filter (fun row => row.id = a.pid) = [row] ∧ row.state = .attached ∧ row.metrics = μ
  wellRead : ∃ vm ∈ (m.cycle Replay.transport Replay.directory r).2.1.tracked, vm.WellRead a μ
    ⟨(m.cycle Replay.transport Replay.directory r).2.1.registry,
      (m.cycle Replay.transport Replay.directory r).2.2.tick⟩

namespace Watches

variable {a : ScenarioInstance} {s : Scenario} {interval n : Nat} {m : Monitor} {r : Replay}
  {ds : List VmDescriptor} {μ : Metrics}

/-- What a cycle makes of the instance is what it returns, and what the next cycle begins with. -/
theorem shows (h : Watches s interval n m r) (hds : listing s interval n = .ok ds) {vm : TrackedVm}
    {world : World Replay} (hvm : vm.WellRead a μ world)
    (hmem : vm.standing world ∈ m.onward r ds) : Shows a μ m r := by
  obtain ⟨m', r', hc, hperm, hnext⟩ := h.cycle_of_ok hds
  obtain ⟨vm', hvm', hst⟩ := List.mem_map.1 (hperm.mem_iff.2 hmem)
  have hwell : vm'.WellRead a μ ⟨m'.registry, r'.tick⟩ := hvm.of_standing hst
  obtain ⟨hid, hstate, hmetrics⟩ := hwell.row_eq
  have hnodup : ((m'.tracked.map fun vm => vm.row m'.registry).map (·.id)).Nodup := by
    simpa [List.map_map, Function.comp_def, TrackedVm.row] using hnext.nodup
  have hfilter := filter_key_eq_singleton (f := InstanceRow.id) hnodup (List.mem_map_of_mem hvm')
  rw [hid] at hfilter
  constructor
  · rw [hc]
    exact ⟨_, vm'.row m'.registry, rfl, hfilter, hstate, hmetrics⟩
  · rw [hc]
    exact ⟨vm', hvm', hwell⟩

/-- An instance that was well read is read once more. -/
theorem shows_of_wellRead (h : Watches s interval n m r) (hds : listing s interval n = .ok ds)
    {vm : TrackedVm} (hmem : vm ∈ m.tracked) (hvm : vm.WellRead a μ ⟨m.registry, r⟩)
    (hvisible : a.isVisible n) (hsound : (a.sampleAt n).Sound) :
    Shows a (a.take (a.sampleAt n) μ) m r := by
  have hclock : (World.mk m.registry r).peers.cycle = n := h.clock
  have hupdate := hvm.update (hclock ▸ hvisible) (hclock ▸ hsound)
  rw [hclock] at hupdate
  exact h.shows hds hupdate (List.mem_append_left _ (List.mem_map.2 ⟨vm, hmem, rfl⟩))

/-- An instance that is listed for the first time is attached, read, and read again. -/
theorem shows_of_listed (h : Watches s interval n m r) (hds : listing s interval n = .ok ds)
    (ha : s.Houses a) (hattachable : a.attachable)
    (hconnects : a.connect = .ok) (hlisted : a.descriptor ∈ ds)
    (hnot : a.pid ∉ m.tracked.map (·.id)) (hsound : (a.sampleAt n).Sound) :
    Shows a (a.take (a.sampleAt n) (a.take (a.sampleAt n) Metrics.initial)) m r := by
  have hclock : (World.mk m.registry r).peers.cycle = n := h.clock
  have hvisible : a.isVisible n := ((Scenario.listed_iff ha hds).1 hlisted).2
  have hhouses : r.scenario.Houses a := h.scenario ▸ ha
  have hnone : (World.mk m.registry r).registry.get? a.pid = none := h.registered.get?_eq_none hnot
  have hmeet : (World.mk m.registry r).peers.meet a.address = .ok (a, true) :=
    Replay.meet_of_connects hhouses (h.clock ▸ hvisible) hconnects
  have hattach := TrackedVm.WellRead.attach hattachable hnone hmeet h.crew.apart
    (hclock ▸ hvisible) (hclock ▸ hsound)
  have hcycle := (TrackedVm.spares_attach (d := a.descriptor) h.crew.apart hnone).1.cycle.trans hclock
  have hupdate := hattach.update (hcycle ▸ hvisible) (hcycle ▸ hsound)
  rw [hcycle, hclock] at hupdate
  have hfresh := Scenario.fresh_of_listed ha hds hlisted hnot
  exact h.shows hds hupdate (List.mem_append_right _ (List.mem_map.2 ⟨_, hfresh, rfl⟩))

end Watches

end Monitor

/-! ### The run -/

namespace Scenario.Undisturbed

variable {a : ScenarioInstance} {s : Scenario} {interval c₀ n : Nat}

/-- In the cycles in question listings do not fail. -/
theorem exists_listing (h : s.Undisturbed a interval c₀ n) {c : Nat} (hge : c₀ ≤ c)
    (hle : c ≤ c₀ + n) :
    ∃ ds, Monitor.listing s interval c = .ok ds := by
  simp only [Monitor.listing, Replay.list]
  split_ifs with hdue hfails
  · obtain ⟨f, hf, hfc⟩ := (Option.any_eq_true _ _).1 hfails
    have hlt := h.lists c hge hle hdue f hf
    exact absurd hlt (by simpa using hfc)
  · exact ⟨_, rfl⟩
  · exact ⟨_, rfl⟩

/-- Before it is first listed, the instance is not tracked. -/
theorem not_tracked (h : s.Undisturbed a interval c₀ n) (order : SortOrder) {c : Nat} (hc : c ≤ c₀) :
    a.pid ∉ (Replay.watch order interval s c).1.tracked.map (·.id) := by
  induction c with
  | zero => simp [Replay.watch, Monitor.new]
  | succ c ih =>
    have hnot := ih (Nat.le_of_succ_le hc)
    have hwatch := Replay.watch_watches order interval s c
    simp only [Replay.watch]
    cases hl : Monitor.listing s interval c with
    | error e =>
      obtain ⟨m', hcycle, hst, -⟩ := hwatch.cycle_of_error hl
      rw [hcycle, ← Monitor.standings_ids m' (Replay.watch order interval s c).2.tick, hst,
        Monitor.standings_ids]
      exact hnot
    | ok ds =>
      obtain ⟨m', r', hcycle, hperm, -⟩ := hwatch.cycle_of_ok hl
      rw [hcycle, ← Monitor.standings_ids m' r'.tick, (hperm.map _).mem_iff, Monitor.onward_ids,
        mem_fresh]
      rintro (hold | hnew)
      · exact hnot hold
      · obtain ⟨d, hd, hid⟩ := List.mem_map.1 hnew
        obtain rfl := eq_of_listed h.houses hl hd hid
        obtain ⟨hdue, hvisible⟩ := (listed_iff h.houses hl).1 hd
        rw [h.first c hc hdue] at hvisible
        cases hvisible

/-- **The invariant** from the cycle `c₀` on: the samples taken in so far are shown. -/
theorem shows (h : s.Undisturbed a interval c₀ n) (order : SortOrder) {k : Nat} (hk : k ≤ n) :
    Monitor.Shows a (a.shownAfter c₀ k) (Replay.watch order interval s (c₀ + k)).1
      (Replay.watch order interval s (c₀ + k)).2 := by
  induction k with
  | zero =>
    obtain ⟨ds, hds⟩ := h.exists_listing (Nat.le_refl c₀) (Nat.le_add_right c₀ n)
    have hlisted := (listed_iff h.houses hds).2
      ⟨h.due, h.visible c₀ (Nat.le_refl c₀) (Nat.le_add_right c₀ n)⟩
    rw [← a.take_take_initial]
    exact (Replay.watch_watches order interval s c₀).shows_of_listed hds h.houses h.attachable
      h.connects hlisted (h.not_tracked order (Nat.le_refl c₀))
      (h.sound c₀ (Nat.le_refl c₀) (Nat.le_add_right c₀ n))
  | succ k ih =>
    have hge : c₀ ≤ c₀ + (k + 1) := Nat.le_add_right c₀ (k + 1)
    have hle : c₀ + (k + 1) ≤ c₀ + n := Nat.add_le_add_left hk c₀
    obtain ⟨ds, hds⟩ := h.exists_listing hge hle
    obtain ⟨vm, hvm, hwell⟩ := (ih (Nat.le_of_succ_le hk)).wellRead
    rw [← a.take_shownAfter]
    exact (Replay.watch_watches order interval s (c₀ + (k + 1))).shows_of_wellRead hds hvm hwell
      (h.visible _ hge hle) (h.sound _ hge hle)

end Scenario.Undisturbed

/-- **Refinement.** Let nothing go wrong with an instance between the cycles `c₀`, in which it is first
listed, and `c₀ + n`. Then each of these cycles returns exactly one row of it, whatever becomes of all
the others. The instance is attached, no update of it has failed, and its metrics are those of taking
the counters of its samples in one after the other from the initial ones on, with the sample of `c₀`
twice; heap, classes, threads, deadlocks and the count of collections are those of the last sample. -/
theorem Replay.refines {s : Scenario} {a : ScenarioInstance} {interval c₀ n : Nat}
    (h : s.Undisturbed a interval c₀ n) (order : SortOrder) {k : Nat} (hk : k ≤ n) :
    ∃ rows row, shown order interval s (c₀ + k) = .ok rows ∧
      rows.filter (fun row => row.id = a.pid) = [row] ∧ row.state = .attached ∧
      row.metrics.updateErrors = 0 ∧
      row.metrics = a.dress (a.sampleAt (c₀ + k)) (a.folded (ScenarioInstance.cyclesTo c₀ k)) := by
  obtain ⟨rows, row, hrows, hfilter, hstate, hmetrics⟩ := (h.shows order hk).row
  refine ⟨rows, row, hrows, hfilter, hstate, ?_, hmetrics⟩
  rw [hmetrics]
  exact a.folded_updateErrors (ScenarioInstance.cyclesTo c₀ k)

/-- A J9 runtime that is first listed in its second visible cycle, with two collectors, beside an
instance that refuses connections: after its second row the CPU time is a hundred times that of the
sample, and the time between the last two samples is known. -/
theorem Replay.refines_of_j9 :
    let a : ScenarioInstance := {
      pid := 7
      appearsAt := 1
      systemProperties := [("java.vm.name", "IBM J9 VM")]
      samples := [
        { fail := true },
        { uptimeMs := 1000, cpuTimeNs := 20000000, gc := [⟨"scavenge", 5, 1⟩, ⟨"global", 2, 1⟩] },
        { uptimeMs := 3000, cpuTimeNs := 30000000, gc := [⟨"scavenge", 6, 2⟩, ⟨"global", 3, 2⟩] }] }
    let s : Scenario := ⟨some 9, [{ pid := 8, connect := .refused }, a]⟩
    ∃ rows row, shown .heap 2 s 3 = .ok rows ∧ rows.filter (fun row => row.id = 7) = [row] ∧
      row.state = .attached ∧ row.metrics.processCpuTimeNs = 3000000000 ∧ row.metrics.gcTimeMs = 9 ∧
      row.metrics.gcCount = 4 ∧ row.metrics.deltaUptimeMs = 2000 := by
  intro a s
  have hundisturbed : s.Undisturbed a 2 2 1 := {
    houses := ⟨rfl, by decide, by decide⟩
    attachable := rfl
    connects := rfl
    due := rfl
    first := by decide
    visible := fun c hge _ => by
      simp only [ScenarioInstance.isVisible, a, Option.all_none, Bool.and_true, decide_eq_true_eq]
      omega
    lists := fun c _ hle _ f hf => by
      cases hf
      omega
    sound := fun c hge hle => by
      obtain rfl | rfl : c = 2 ∨ c = 3 := by omega
      · exact ⟨rfl, rfl, rfl, by decide, by decide⟩
      · exact ⟨rfl, rfl, rfl, by decide, by decide⟩ }
  obtain ⟨rows, row, hrows, hfilter, hstate, -, hmetrics⟩ :=
    refines hundisturbed .heap (Nat.le_refl 1)
  refine ⟨rows, row, hrows, hfilter, hstate, ?_⟩
  rw [hmetrics]
  decide +kernel

end VmMonitor
