import VmMonitor.Proofs.Monitor.Tracking
import VmMonitor.Proofs.Scenario.Twins

/-!
# Watching a replay

A monitor watches a replay: its cycles and the ticks of the replay's clock take turns. The instances
share the replay, but each of them has a session and a connection of its own, so the cycle as a whole
does to each instance what it would do to it if there were no other.

## What is proved

* `Monitor.track_standings`, `Monitor.updateAll_standings` — the two halves of a cycle, instance by
  instance.
* `Monitor.Watches.cycle_of_ok` — a whole cycle.
* `Replay.watch_watches` — **the invariant** holds along the run.
-/

namespace VmMonitor

/-- What is decided by the members of a list, for two lists that are alike in some respect. -/
theorem map_eq_of_map_eq {α β γ δ : Type} {f : α → γ} {f' : β → γ} {g : α → δ} {g' : β → δ}
    {xs : List α} {ys : List β} (h : xs.map f = ys.map f')
    (hg : ∀ x ∈ xs, ∀ y ∈ ys, f x = f' y → g x = g' y) : xs.map g = ys.map g' := by
  induction xs generalizing ys with
  | nil => cases ys <;> simp_all
  | cons x xs ih =>
    cases ys with
    | nil => simp at h
    | cons y ys =>
      obtain ⟨hhead, htail⟩ := List.cons.inj h
      rw [List.map_cons, List.map_cons, hg x (.head _) y (.head _) hhead,
        ih htail fun x hx y hy => hg x (.tail _ hx) y (.tail _ hy)]

/-! ### One instance among others -/

namespace Replay

/-- What is met at an address depends on the scenario and on the clock. -/
theorem meet_congr {r r' : Replay} (hscenario : r'.scenario = r.scenario) (hcycle : r'.cycle = r.cycle)
    (e : Endpoint) : r'.meet e = r.meet e := by
  simp only [meet, target?, hscenario, hcycle]

end Replay

namespace TrackedVm

/-- What an update makes of an instance. -/
def updated (world : World Replay) (vm : TrackedVm) : Standing :=
  (vm.update Replay.transport world).2.1.standing (vm.update Replay.transport world).2.2

/-- What becomes of an instance that is tracked now. -/
def arrived (world : World Replay) (d : VmDescriptor) : Standing :=
  (attach Replay.transport d world).1.standing (attach Replay.transport d world).2

/-- The same after the update of the cycle in which it arrives. -/
def joined (world : World Replay) (d : VmDescriptor) : Standing :=
  (attach Replay.transport d world).1.updated (attach Replay.transport d world).2

section

variable {vm : TrackedVm} {d : VmDescriptor} {world world' : World Replay} {P : SessionId → Prop}

@[simp] theorem updated_descriptor : (vm.updated world).1 = vm.descriptor := rfl

@[simp] theorem joined_descriptor : (joined world d).1 = d := attach_descriptor d world

theorem standing_of_spares (h : World.Spares P world world') (hP : P vm.session)
    (hin : vm.session < world.registry.sessions.length) : vm.standing world' = vm.standing world := by
  simp only [standing, h.seat vm.session hin hP]

theorem updated_of_spares (h : World.Spares P world world') (hP : P vm.session)
    (hin : vm.session < world.registry.sessions.length) : vm.updated world' = vm.updated world :=
  standing_update (standing_of_spares h hP hin) h.cycle

theorem arrived_of_spares (ha : world.Apart) (h : World.Spares P world world')
    (hnone : world.registry.get? d.id = none) (hnone' : world'.registry.get? d.id = none) :
    arrived world' d = arrived world d :=
  standing_attach h.apart ha hnone' hnone h.cycle (Replay.meet_congr h.scenario h.cycle d.endpoint)

end

end TrackedVm

/-! ### All instances -/

/-- Every tracked instance has a session of its own, and every session its own connection. -/
structure World.Crew (world : World Replay) (vms : List TrackedVm) : Prop where
  apart : world.Apart
  inRange : ∀ vm ∈ vms, vm.session < world.registry.sessions.length
  nodup : (vms.map (·.session)).Nodup

namespace World.Crew

variable {world world' : World Replay} {vm : TrackedVm} {vms vms' : List TrackedVm}
  {P : SessionId → Prop}

theorem spares (h : world.Crew vms) (hs : Spares P world world') : world'.Crew vms where
  apart := hs.apart
  inRange vm hvm := Nat.lt_of_lt_of_le (h.inRange vm hvm) hs.length_le
  nodup := h.nodup

/-- What matters of the instances is which sessions they have. -/
theorem of_perm (h : world.Crew vms) (hp : (vms'.map (·.session)).Perm (vms.map (·.session))) :
    world.Crew vms' where
  apart := h.apart
  inRange vm hvm := by
    obtain ⟨vm', hvm', heq⟩ := List.mem_map.1 (hp.mem_iff.1 (List.mem_map_of_mem hvm))
    exact heq ▸ h.inRange vm' hvm'
  nodup := hp.nodup_iff.2 h.nodup

theorem tail (h : world.Crew (vm :: vms)) : world.Crew vms where
  apart := h.apart
  inRange vm hvm := h.inRange vm (.tail _ hvm)
  nodup := (List.nodup_cons.1 h.nodup).2

/-- The one that comes first has none of the others' sessions. -/
theorem session_ne (h : world.Crew (vm :: vms)) {vm' : TrackedVm} (hvm' : vm' ∈ vms) :
    vm'.session ≠ vm.session := by
  intro heq
  exact (List.nodup_cons.1 h.nodup).1 (List.mem_map.2 ⟨vm', hvm', heq⟩)

/-- The clock is nobody's. -/
theorem tick (h : world.Crew vms) : Crew ⟨world.registry, world.peers.tick⟩ vms :=
  ⟨⟨h.apart.inRange, h.apart.distinct⟩, h.inRange, h.nodup⟩

/-- A new instance joins with a new session. -/
theorem attach (h : world.Crew vms) {d : VmDescriptor} (hnone : world.registry.get? d.id = none) :
    (TrackedVm.attach Replay.transport d world).2.Crew
      (vms ++ [(TrackedVm.attach Replay.transport d world).1]) := by
  obtain ⟨hs, hlt⟩ := TrackedVm.spares_attach h.apart hnone
  have hsession := TrackedVm.attach_session hnone
  refine ⟨hs.apart, fun vm hvm => ?_, ?_⟩
  · rcases List.mem_append.1 hvm with hvm | hvm
    · exact (h.spares hs).inRange vm hvm
    · obtain rfl := List.mem_singleton.1 hvm
      exact hsession ▸ hlt
  · rw [List.map_append, List.map_singleton, List.nodup_append]
    refine ⟨h.nodup, by simp, fun i hi j hj heq => ?_⟩
    obtain ⟨vm, hvm, rfl⟩ := List.mem_map.1 hi
    obtain rfl := List.mem_singleton.1 hj
    exact absurd (h.inRange vm hvm) (by rw [heq, hsession]; exact Nat.lt_irrefl _)

end World.Crew

namespace Monitor

/-- **Updating all** does to each instance what updating it alone would do. -/
theorem updateAll_standings {vms : List TrackedVm} {world : World Replay} (h : world.Crew vms) :
    World.Spares (fun j => ∀ vm ∈ vms, j ≠ vm.session) world
      (updateAll Replay.transport vms world).2 ∧
    (updateAll Replay.transport vms world).1.map
        (·.standing (updateAll Replay.transport vms world).2) =
      vms.map (·.updated world) := by
  induction vms generalizing world with
  | nil => exact ⟨.refl h.apart, rfl⟩
  | cons vm vms ih =>
    have hupdate := TrackedVm.spares_update h.apart vm
    obtain ⟨hspares, hstandings⟩ := ih (h.tail.spares hupdate)
    refine ⟨?_, ?_⟩
    · exact (hupdate.mono fun j hj => hj vm (.head _)).trans
        (hspares.mono fun j hj vm' hvm' => hj vm' (.tail _ hvm'))
    · have hvm : ((vm.update Replay.transport world).2.1.standing
          (updateAll Replay.transport vms (vm.update Replay.transport world).2.2).2) =
            vm.updated world := by
        refine TrackedVm.standing_of_spares hspares (fun vm' hvm' => (h.session_ne hvm').symm) ?_
        exact Nat.lt_of_lt_of_le (h.inRange vm (.head _)) hupdate.length_le
      have hvms : vms.map (·.updated (vm.update Replay.transport world).2.2) =
          vms.map (·.updated world) :=
        List.map_congr_left fun vm' hvm' => TrackedVm.updated_of_spares hupdate (h.session_ne hvm')
          (h.inRange vm' (.tail _ hvm'))
      simp only [updateAll, List.map_cons, hvm, hstandings, hvms]

/-- **Tracking** leaves those that were tracked as they are, and does to each fresh one what tracking
it alone would do. -/
theorem track_standings (ds : List VmDescriptor) {tracked : List TrackedVm} {world : World Replay}
    (h : world.Crew tracked) (hreg : world.registry.Within (tracked.map (·.id))) :
    (track Replay.transport ds tracked world).2.Crew (track Replay.transport ds tracked world).1 ∧
    World.Spares (fun _ => True) world (track Replay.transport ds tracked world).2 ∧
    (track Replay.transport ds tracked world).1.map
        (·.standing (track Replay.transport ds tracked world).2) =
      tracked.map (·.standing world) ++
        (fresh (tracked.map (·.id)) ds).map (TrackedVm.arrived world) := by
  induction ds generalizing tracked world with
  | nil => exact ⟨h, .refl h.apart, by simp [track, fresh]⟩
  | cons d ds ih =>
    by_cases hd : d.id ∈ tracked.map (·.id)
    · simp only [track_cons_of_mem Replay.transport hd, fresh, hd, if_true]
      exact ih h hreg
    have hnone := hreg.get?_eq_none hd
    obtain ⟨hdesc, hwithin⟩ := TrackedVm.attach_within Replay.transport d hnone hreg
    have hids : (tracked ++ [(TrackedVm.attach Replay.transport d world).1]).map (·.id) =
        tracked.map (·.id) ++ [d.id] := by
      simp [TrackedVm.id, hdesc]
    rw [← hids] at hwithin
    have hattach := (TrackedVm.spares_attach h.apart hnone).1
    obtain ⟨hcrew, hspares, hstandings⟩ := ih (h.attach hnone) hwithin
    rw [track_cons_of_not_mem Replay.transport hd]
    refine ⟨hcrew, hattach.trans hspares, hstandings.trans ?_⟩
    have htracked : tracked.map (·.standing (TrackedVm.attach Replay.transport d world).2) =
        tracked.map (·.standing world) :=
      List.map_congr_left fun vm hvm =>
        TrackedVm.standing_of_spares hattach trivial (h.inRange vm hvm)
    -- Whoever is fresh after `d` was not registered before, nor is by `d`.
    have hrest : (fresh (tracked.map (·.id) ++ [d.id]) ds).map
        (TrackedVm.arrived (TrackedVm.attach Replay.transport d world).2) =
          (fresh (tracked.map (·.id) ++ [d.id]) ds).map (TrackedVm.arrived world) := by
      refine List.map_congr_left fun d' hd' => ?_
      have hnot := not_mem_of_mem_fresh hd'
      refine TrackedVm.arrived_of_spares h.apart hattach (hreg.get?_eq_none fun hid => hnot ?_)
        (hwithin.get?_eq_none (hids ▸ hnot))
      exact List.mem_append_left _ hid
    rw [hids, hrest, List.map_append, htracked, List.map_singleton]
    simp only [fresh, hd, if_false, List.map_cons, List.append_assoc, List.singleton_append]
    rfl

/-! ### A cycle -/

/-- What there is of all tracked instances. -/
def standings (m : Monitor) (r : Replay) : List Standing := m.tracked.map (·.standing ⟨m.registry, r⟩)

/-- What a cycle with the listing `ds` makes of them: those that are tracked are updated, and the fresh
ones are tracked and updated. -/
def onward (m : Monitor) (r : Replay) (ds : List VmDescriptor) : List Standing :=
  m.tracked.map (·.updated ⟨m.registry, r⟩) ++
    (fresh (m.tracked.map (·.id)) ds).map (TrackedVm.joined ⟨m.registry, r⟩)

theorem standings_ids (m : Monitor) (r : Replay) :
    (m.standings r).map (·.1.id) = m.tracked.map (·.id) := by
  simp [standings, Function.comp_def, TrackedVm.standing, TrackedVm.id]

theorem onward_ids (m : Monitor) (r : Replay) (ds : List VmDescriptor) :
    (m.onward r ds).map (·.1.id) =
      m.tracked.map (·.id) ++ (fresh (m.tracked.map (·.id)) ds).map (·.id) := by
  simp [onward, Function.comp_def, TrackedVm.id]

/-- The listing that is due in a cycle; empty if none is. -/
def listing (s : Scenario) (interval cycle : Nat) : Except MonitorError (List VmDescriptor) :=
  if cycle % max interval 1 = 0 then Replay.list { scenario := s, cycle } else .ok []

/-- What holds of a monitor and the scenario that it watches before the cycle `n`: the clocks of both
stand at it, the instances do not get in each other's way, and an instance is tracked once. -/
structure Watches (s : Scenario) (interval n : Nat) (m : Monitor) (r : Replay) : Prop where
  scenario : r.scenario = s
  clock : r.cycle = n
  turn : m.discovery.cycle = n
  interval_eq : m.discovery.interval = max interval 1
  crew : World.Crew ⟨m.registry, r⟩ m.tracked
  nodup : (m.tracked.map (·.id)).Nodup
  registered : m.registry.Within (m.tracked.map (·.id))
  known : ∀ id, Table.has id m.discovery.known → id ∈ m.tracked.map (·.id)

theorem watches_new (order : SortOrder) (interval : Nat) (s : Scenario) :
    Watches s interval 0 (new order interval) (Replay.new s) where
  scenario := rfl
  clock := rfl
  turn := rfl
  interval_eq := rfl
  crew := ⟨⟨fun hs => by simp [new, Registry.session?] at hs,
      fun hs => by simp [new, Registry.session?] at hs⟩,
    fun vm hvm => by simp [new] at hvm, by simp [new]⟩
  nodup := by simp [new]
  registered id i hid := by simp [new, Registry.get?, Register.get?] at hid
  known id hid := by simp [new, Discovery.new, Table.has, Table.get?] at hid

namespace Watches

variable {s : Scenario} {interval n : Nat} {m : Monitor} {r : Replay}

theorem scan_eq (h : Watches s interval n m r) :
    m.discovery.scan Replay.directory r = (listing s interval n, r) := by
  have hlist : r.list = Replay.list { scenario := s, cycle := n } := by
    simp only [Replay.list, h.scenario, h.clock]
  simp only [Discovery.scan, listing, h.turn, h.interval_eq]
  split_ifs
  · exact congrArg (·, r) hlist
  · rfl

/-- What tracking leaves, updated. -/
theorem updated_of_tracked (h : Watches s interval n m r) {ds : List VmDescriptor}
    {vms : List TrackedVm} {world : World Replay}
    (hspares : World.Spares (fun _ => True) ⟨m.registry, r⟩ world)
    (htracked : (m.tracked ++ vms).map (·.standing world) =
      m.tracked.map (·.standing ⟨m.registry, r⟩) ++
        (fresh (m.tracked.map (·.id)) ds).map (TrackedVm.arrived ⟨m.registry, r⟩)) :
    (m.tracked ++ vms).map (·.updated world) = m.onward r ds := by
  have hold : m.tracked.map (·.standing world) = m.tracked.map (·.standing ⟨m.registry, r⟩) :=
    List.map_congr_left fun vm hvm =>
      TrackedVm.standing_of_spares hspares trivial (h.crew.inRange vm hvm)
  rw [List.map_append, hold, List.append_cancel_left_eq] at htracked
  rw [List.map_append, onward]
  congr 1
  · exact List.map_congr_left fun vm hvm =>
      TrackedVm.updated_of_spares hspares trivial (h.crew.inRange vm hvm)
  · refine map_eq_of_map_eq htracked fun vm _ d hd hvm => ?_
    have hattach := (TrackedVm.spares_attach h.crew.apart
      (h.registered.get?_eq_none (not_mem_of_mem_fresh hd))).1
    exact TrackedVm.standing_update hvm (hspares.cycle.trans hattach.cycle.symm)

/-- A cycle without a listing. -/
theorem cycle_of_error (h : Watches s interval n m r) {e : MonitorError}
    (he : listing s interval n = .error e) :
    ∃ m', m.cycle Replay.transport Replay.directory r = (.error e, m', r) ∧
      m'.standings r.tick = m.standings r ∧ Watches s interval (n + 1) m' r.tick := by
  have hscan := he ▸ h.scan_eq
  refine ⟨{ m with discovery := { m.discovery with cycle := m.discovery.cycle + 1 } },
    by simp [cycle, Discovery.poll_of_error hscan], rfl, ?_⟩
  exact ⟨h.scenario, congrArg (· + 1) h.clock, congrArg (· + 1) h.turn, h.interval_eq,
    h.crew.tick, h.nodup, h.registered, h.known⟩

theorem once (h : Watches s interval n m r) : m.TracksOnce := ⟨h.nodup, h.registered, h.known⟩

/-- **A cycle with a listing** does to each instance what it would do to it alone, and puts them in
some order. -/
theorem cycle_of_ok (h : Watches s interval n m r) {ds : List VmDescriptor}
    (hds : listing s interval n = .ok ds) :
    ∃ m' r', m.cycle Replay.transport Replay.directory r =
        (.ok (m'.tracked.map fun vm => vm.row m'.registry), m', r') ∧
      (m'.standings r'.tick).Perm (m.onward r ds) ∧ Watches s interval (n + 1) m' r'.tick := by
  obtain ⟨vms, world, kept, added, m', r', hc, hworks⟩ :=
    exists_worksOff Replay.transport h.once (hds ▸ h.scan_eq)
  -- The listing is worked off.
  have hreg : (World.mk m.registry r).registry.Within (m.tracked.map (·.id)) := h.registered
  obtain ⟨hcrew, hspares, htracked⟩ := track_standings (m.news ds) h.crew hreg
  simp only [hworks.track, h.once.fresh_news] at hcrew hspares htracked
  -- All are updated.
  obtain ⟨hspares', hall⟩ := updateAll_standings hcrew
  simp only [hworks.update] at hspares' hall
  have hstandings : (m'.tracked.map (·.standing ⟨m'.registry, r'⟩)).Perm (m.onward r ds) :=
    (hworks.listed.perm.map _).trans
      (List.Perm.of_eq (hall.trans (h.updated_of_tracked hspares htracked)))
  refine ⟨m', r', hc, hstandings, ?_⟩
  exact {
    scenario := hspares'.scenario.trans (hspares.scenario.trans h.scenario)
    clock := congrArg (· + 1) (hspares'.cycle.trans (hspares.cycle.trans h.clock))
    turn := hworks.turn.trans (congrArg (· + 1) h.turn)
    interval_eq := hworks.interval.trans h.interval_eq
    crew := ((hcrew.spares hspares').of_perm hworks.sessions).tick
    nodup := hworks.once.nodup
    registered := hworks.once.registered
    known := hworks.once.known }

end Watches

end Monitor

/-! ### The run -/

namespace Replay

/-- A monitor and the scenario that it watches, before the cycle `n`. -/
def watch (order : SortOrder) (interval : Nat) (s : Scenario) : Nat → Monitor × Replay
  | 0 => (Monitor.new order interval, Replay.new s)
  | n + 1 =>
    let (m, r) := watch order interval s n
    let (_, m, r) := m.cycle transport directory r
    (m, r.tick)

/-- **The invariant** holds before every cycle. -/
theorem watch_watches (order : SortOrder) (interval : Nat) (s : Scenario) (n : Nat) :
    Monitor.Watches s interval n (watch order interval s n).1 (watch order interval s n).2 := by
  induction n with
  | zero => exact Monitor.watches_new order interval s
  | succ n ih =>
    simp only [watch]
    cases hl : Monitor.listing s interval n with
    | error e =>
      obtain ⟨m', hc, -, hnext⟩ := ih.cycle_of_error hl
      rw [hc]
      exact hnext
    | ok ds =>
      obtain ⟨m', r', hc, -, hnext⟩ := ih.cycle_of_ok hl
      rw [hc]
      exact hnext

/-- What the cycle `n` returns. -/
def shown (order : SortOrder) (interval : Nat) (s : Scenario) (n : Nat) :
    Except MonitorError (List InstanceRow) :=
  let (m, r) := watch order interval s n
  (m.cycle transport directory r).1

end Replay

end VmMonitor
