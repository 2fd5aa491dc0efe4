import VmMonitor.Proofs.Scenario.Seats

/-!
# Operations that only see a seat

Two sessions in two replays are twins if the clocks agree and the seats are the same: they may hold
connections of different numbers, and everything else in the two replays may differ. Whatever is done
to both of them has the same result, and leaves twins.

## What is proved

* `Session.Twins.update`, `Session.Twins.connect` — of an update and of an attempt to connect.
* `TrackedVm.standing_update`, `TrackedVm.standing_attach` — the same of tracked instances.
-/

namespace VmMonitor

open Exchange

namespace Replay

/-- Connections that are alike are checked alike, and are alike after that. -/
theorem isAlive_alike {c₁ c₂ : ConnectionId} {r₁ r₂ : Replay} (hcycle : r₁.cycle = r₂.cycle)
    (hline : r₁.connections[c₁]? = r₂.connections[c₂]?) :
    (transport.isAlive c₁ r₁).1 = (transport.isAlive c₂ r₂).1 ∧
    (transport.isAlive c₁ r₁).2.cycle = (transport.isAlive c₂ r₂).2.cycle ∧
    (transport.isAlive c₁ r₁).2.connections[c₁]? = (transport.isAlive c₂ r₂).2.connections[c₂]? := by
  change (r₁.isAlive c₁).1 = (r₂.isAlive c₂).1 ∧ (r₁.isAlive c₁).2.cycle = (r₂.isAlive c₂).2.cycle ∧
    (r₁.isAlive c₁).2.connections[c₁]? = (r₂.isAlive c₂).2.connections[c₂]?
  rw [isAlive_eq, isAlive_eq]
  refine ⟨?_, hcycle, ?_⟩
  · simp only [hline, hcycle]
  · simp only [List.getElem?_modify, hline, hcycle, if_true]

theorem close_cycle (c : ConnectionId) (r : Replay) : (transport.close c r).cycle = r.cycle := by
  change (r.close c).cycle = r.cycle
  rw [close_eq]

end Replay

namespace Session

/-- Behind one seat there is no connection, or connections that are alike. -/
theorem seat_elim {s₁ s₂ : Session} {r₁ r₂ : Replay} (hseat : s₁.seat r₁ = s₂.seat r₂) :
    (s₁.connection = none ∧ s₂ = s₁) ∨
    ∃ c₁ c₂, s₁.connection = some c₁ ∧ s₂ = { s₁ with connection := some c₂ } ∧
      c₁.cache = c₂.cache ∧ r₁.connections[c₁.id]? = r₂.connections[c₂.id]? := by
  obtain ⟨id₁, endpoint₁, state₁, connection₁, lockUsage₁, failure₁⟩ := s₁
  obtain ⟨id₂, endpoint₂, state₂, connection₂, lockUsage₂, failure₂⟩ := s₂
  simp only [Session.seat, line?, Prod.mk.injEq, Session.mk.injEq] at hseat
  obtain ⟨⟨rfl, rfl, rfl, hconnection, rfl, rfl⟩, hline⟩ := hseat
  cases connection₁ with
  | none =>
    cases connection₂ with
    | none => exact .inl ⟨rfl, rfl⟩
    | some c₂ => simp at hconnection
  | some c₁ =>
    cases connection₂ with
    | none => simp at hconnection
    | some c₂ =>
      refine .inr ⟨c₁, c₂, rfl, rfl, ?_, by simpa using hline⟩
      simpa using hconnection

/-- The clocks agree, and the seats are the same. -/
structure Twins (s₁ : Session) (r₁ : Replay) (s₂ : Session) (r₂ : Replay) : Prop where
  cycle : r₁.cycle = r₂.cycle
  seat : s₁.seat r₁ = s₂.seat r₂

namespace Twins

variable {s s₁ s₂ : Session} {r₁ r₂ : Replay}

theorem idle (hc : s.connection = none) (hcycle : r₁.cycle = r₂.cycle) : Twins s r₁ s r₂ :=
  ⟨hcycle, by simp [Session.seat, line?, hc]⟩

theorem on (s : Session) {c₁ c₂ : Connection} (hcycle : r₁.cycle = r₂.cycle)
    (hcache : c₁.cache = c₂.cache) (hline : r₁.connections[c₁.id]? = r₂.connections[c₂.id]?) :
    Twins { s with connection := some c₁ } r₁ { s with connection := some c₂ } r₂ :=
  ⟨hcycle, by simp [Session.seat, line?, hcache, hline]⟩

/-- Twins hold no connection, or connections that are alike. -/
theorem elim (h : Twins s₁ r₁ s₂ r₂) : (s₁.connection = none ∧ s₂ = s₁) ∨
    ∃ c₁ c₂, s₁.connection = some c₁ ∧ s₂ = { s₁ with connection := some c₂ } ∧
      c₁.cache = c₂.cache ∧ r₁.connections[c₁.id]? = r₂.connections[c₂.id]? := seat_elim h.seat

theorem state_eq (h : Twins s₁ r₁ s₂ r₂) : s₁.state = s₂.state := by
  rcases h.elim with ⟨-, rfl⟩ | ⟨c₁, c₂, -, rfl, -, -⟩ <;> rfl

/-- Whatever becomes of their state, they give their connections up alike. -/
theorem disconnect (h : Twins s₁ r₁ s₂ r₂) :
    Twins (s₁.disconnect Replay.transport r₁).1 (s₁.disconnect Replay.transport r₁).2
      (s₂.disconnect Replay.transport r₂).1 (s₂.disconnect Replay.transport r₂).2 := by
  rcases h.elim with ⟨hc, rfl⟩ | ⟨c₁, c₂, hc₁, rfl, -, -⟩
  · rw [disconnect_of_none _ hc, disconnect_of_none _ hc]
    exact h
  · rw [disconnect_of_some _ hc₁, disconnect_of_some (c := c₂) _ rfl]
    refine idle rfl ?_
    rw [Replay.close_cycle, Replay.close_cycle, h.cycle]

theorem withState (h : Twins s₁ r₁ s₂ r₂) (state : SessionState) :
    Twins { s₁ with state } r₁ { s₂ with state } r₂ := by
  rcases h.elim with ⟨hc, rfl⟩ | ⟨c₁, c₂, hc₁, rfl, hcache, hline⟩
  · exact idle hc h.cycle
  · have hs₁ : { s₁ with state } = { s₁ with state, connection := some c₁ } := by rw [← hc₁]
    rw [hs₁]
    exact on { s₁ with state } h.cycle hcache hline

/-- An event does the same to both. -/
theorem apply (h : Twins s₁ r₁ s₂ r₂) (e : SessionEvent) :
    Twins (s₁.apply Replay.transport e r₁).1 (s₁.apply Replay.transport e r₁).2
      (s₂.apply Replay.transport e r₂).1 (s₂.apply Replay.transport e r₂).2 := by
  simp only [Session.apply, h.state_eq]
  split_ifs
  · exact h
  · exact (h.withState _).disconnect
  · exact h.withState _

/-- A liveness check has the same answer for both. -/
theorem isLive (h : Twins s₁ r₁ s₂ r₂) :
    (s₁.isLive Replay.transport r₁).1 = (s₂.isLive Replay.transport r₂).1 ∧
    Twins (s₁.isLive Replay.transport r₁).2.1 (s₁.isLive Replay.transport r₁).2.2
      (s₂.isLive Replay.transport r₂).2.1 (s₂.isLive Replay.transport r₂).2.2 := by
  rcases h.elim with ⟨hc, rfl⟩ | ⟨c₁, c₂, hc₁, rfl, hcache, hline⟩
  · rw [isLive_of_none hc, isLive_of_none hc]
    exact ⟨rfl, h.apply .livenessLost⟩
  · have hs₁ : { s₁ with connection := some c₁ } = s₁ := by rw [← hc₁]
    obtain ⟨halive, hcycle, hline'⟩ := Replay.isAlive_alike h.cycle hline
    have hchecked := on s₁ hcycle hcache hline'
    rw [hs₁] at hchecked
    rcases h₁ : Replay.transport.isAlive c₁.id r₁ with ⟨alive, r₁'⟩
    rcases h₂ : Replay.transport.isAlive c₂.id r₂ with ⟨alive', r₂'⟩
    rw [h₁, h₂] at halive hchecked
    obtain rfl : alive = alive' := halive
    cases alive with
    | true =>
      rw [isLive_of_alive hc₁ h₁, isLive_of_alive (s := { s₁ with connection := some c₂ }) rfl h₂]
      exact ⟨rfl, hchecked⟩
    | false =>
      rw [isLive_of_dead hc₁ h₁, isLive_of_dead (s := { s₁ with connection := some c₂ }) rfl h₂]
      exact ⟨rfl, hchecked.apply .livenessLost⟩

/-- A reading takes the same in for both. -/
theorem readSession (h : Twins s₁ r₁ s₂ r₂) (g : Gauges) :
    (g.readSession Replay.transport s₁ r₁).1 = (g.readSession Replay.transport s₂ r₂).1 ∧
    (g.readSession Replay.transport s₁ r₁).2.1 = (g.readSession Replay.transport s₂ r₂).2.1 ∧
    Twins (g.readSession Replay.transport s₁ r₁).2.2.1 (g.readSession Replay.transport s₁ r₁).2.2.2
      (g.readSession Replay.transport s₂ r₂).2.2.1 (g.readSession Replay.transport s₂ r₂).2.2.2 := by
  rcases h.elim with ⟨hc, rfl⟩ | ⟨c₁, c₂, hc₁, rfl, hcache, hline⟩
  · rw [Gauges.readSession_of_none _ hc, Gauges.readSession_of_none _ hc]
    exact ⟨rfl, rfl, h⟩
  · have halike := (Replay.source_alike h.cycle hline).cached.sample s₁.lockUsage
      (g, c₁.cache.flush, r₁) (g, c₂.cache.flush, r₂) ⟨rfl, by rw [hcache], .refl r₁, .refl r₂⟩
    rcases hrun₁ : (Gauges.sample (Cache.source (Replay.transport.source c₁.id)) s₁.lockUsage).run
      (g, c₁.cache.flush, r₁) with ⟨result₁, g₁, cache₁, r₁'⟩
    rcases hrun₂ : (Gauges.sample (Cache.source (Replay.transport.source c₂.id)) s₁.lockUsage).run
      (g, c₂.cache.flush, r₂) with ⟨result₂, g₂, cache₂, r₂'⟩
    rw [hrun₁, hrun₂] at halike
    obtain ⟨hresult, hgauges, hcache', hquiet₁, hquiet₂⟩ := halike
    simp only at hresult hgauges hcache' hquiet₁ hquiet₂
    rw [Gauges.readSession_of_run _ hc₁ hrun₁,
      Gauges.readSession_of_run (s := { s₁ with connection := some c₂ }) _ rfl hrun₂]
    refine ⟨hresult, hgauges, on s₁ ?_ hcache' ?_⟩
    · rw [hquiet₁.cycle, hquiet₂.cycle, h.cycle]
    · rw [hquiet₁.connections, hquiet₂.connections, hline]

/-- **An update** of twins. -/
theorem update (h : Twins s₁ r₁ s₂ r₂) (g : Gauges) (id : InstanceId) :
    (g.update Replay.transport id s₁ r₁).2.1 = (g.update Replay.transport id s₂ r₂).2.1 ∧
    Twins (g.update Replay.transport id s₁ r₁).2.2.1 (g.update Replay.transport id s₁ r₁).2.2.2
      (g.update Replay.transport id s₂ r₂).2.2.1 (g.update Replay.transport id s₂ r₂).2.2.2 := by
  by_cases hs₁ : s₁.state.isAttached
  swap
  · have hs₂ : s₂.state.isAttached = false := by simpa [h.state_eq] using hs₁
    rw [Gauges.update_of_idle (by simpa using hs₁), Gauges.update_of_idle hs₂]
    exact ⟨rfl, h⟩
  have hs₂ : s₂.state.isAttached := h.state_eq ▸ hs₁
  obtain ⟨hresult, hlive⟩ := h.isLive
  rcases h₁ : s₁.isLive Replay.transport r₁ with ⟨alive, s₁', r₁'⟩
  rcases h₂ : s₂.isLive Replay.transport r₂ with ⟨alive', s₂', r₂'⟩
  rw [h₁, h₂] at hresult hlive
  obtain rfl : alive = alive' := hresult
  cases alive with
  | false =>
    rw [Gauges.update_of_lost hs₁ h₁, Gauges.update_of_lost hs₂ h₂]
    exact ⟨rfl, hlive⟩
  | true =>
    obtain rfl := isLive_of_true _ h₁
    obtain rfl := isLive_of_true _ h₂
    obtain ⟨hresult, hgauges, hread⟩ := Twins.readSession hlive g
    simp only at hresult hgauges hread
    rcases h₁' : g.readSession Replay.transport s₁' r₁' with ⟨result, g₁, s₁'', r₁''⟩
    rcases h₂' : g.readSession Replay.transport s₂' r₂' with ⟨result', g₂, s₂'', r₂''⟩
    rw [h₁', h₂'] at hresult hgauges hread
    obtain rfl : result = result' := hresult
    obtain rfl : g₁ = g₂ := hgauges
    cases result with
    | ok u =>
      rw [Gauges.update_of_done hs₁ h₁ h₁', Gauges.update_of_done hs₂ h₂ h₂']
      exact ⟨rfl, hread.apply _⟩
    | error e =>
      have hfailed := hread.apply (.updateFailed (g₁.metrics.updateErrors + 1))
      rcases ha₁ : s₁''.apply Replay.transport (.updateFailed (g₁.metrics.updateErrors + 1)) r₁''
      rcases ha₂ : s₂''.apply Replay.transport (.updateFailed (g₁.metrics.updateErrors + 1)) r₂''
      rw [ha₁, ha₂] at hfailed
      rw [Gauges.update_of_failed hs₁ h₁ h₁' ha₁, Gauges.update_of_failed hs₂ h₂ h₂' ha₂]
      exact ⟨rfl, hfailed⟩

/-- An attempt to connect fails alike for both. -/
theorem attachFailed (hc : s.connection = none) (hcycle : r₁.cycle = r₂.cycle) (e : ConnectionError) :
    Twins (s.attachFailed Replay.transport e r₁).2.1 (s.attachFailed Replay.transport e r₁).2.2
      (s.attachFailed Replay.transport e r₂).2.1 (s.attachFailed Replay.transport e r₂).2.2 := by
  simp only [Session.attachFailed]
  split_ifs
  · exact (idle hc hcycle).apply _
  · exact (idle (s := { s with failure := some e }) hc hcycle).apply _

/-- **A first attempt to connect**, where it meets the same. -/
theorem connect (hs : s.state = .init) (hc : s.connection = none) (hcycle : r₁.cycle = r₂.cycle)
    (hmeet : r₁.meet s.endpoint = r₂.meet s.endpoint) :
    Twins (s.connect Replay.transport r₁).2.1 (s.connect Replay.transport r₁).2.2
      (s.connect Replay.transport r₂).2.1 (s.connect Replay.transport r₂).2.2 := by
  have hidle : ({ s with state := .connecting } : Session).connection = none := hc
  cases hm : r₂.meet s.endpoint with
  | error e =>
    rw [connect_of_refused hs hc (Replay.connect_of_error (hmeet.trans hm)),
      connect_of_refused hs hc (Replay.connect_of_error hm)]
    refine attachFailed hidle ?_ e
    exact hcycle
  | ok x =>
    obtain ⟨target, alive⟩ := x
    have ho₁ := Replay.connect_of_ok (hmeet.trans hm)
    have ho₂ := Replay.connect_of_ok hm
    generalize hr₁ : ({ r₁ with connections := _, stats := _ } : Replay) = r₁' at ho₁
    generalize hr₂ : ({ r₂ with connections := _, stats := _ } : Replay) = r₂' at ho₂
    have hopened : r₁'.cycle = r₂'.cycle := by rw [← hr₁, ← hr₂, hcycle]
    have hline : r₁'.connections[r₁.connections.length]? = r₂'.connections[r₂.connections.length]? := by
      simp [← hr₁, ← hr₂]
    -- From here on the two numbers are of connections that are alike, whatever they are.
    generalize r₁.connections.length = c₁ at ho₁ hline
    generalize r₂.connections.length = c₂ at ho₂ hline
    obtain ⟨hlives, hchecked, hline⟩ := Replay.isAlive_alike hopened hline
    rcases ha₁ : Replay.transport.isAlive c₁ r₁' with ⟨alive₁, v₁⟩
    rcases ha₂ : Replay.transport.isAlive c₂ r₂' with ⟨alive₂, v₂⟩
    rw [ha₁, ha₂] at hlives hchecked hline
    obtain rfl : alive₁ = alive₂ := hlives
    cases alive₁ with
    | false =>
      rw [connect_of_dead hs hc ho₁ ha₁, connect_of_dead hs hc ho₂ ha₂]
      refine (idle hidle ?_).apply _
      rw [Replay.close_cycle, Replay.close_cycle]
      exact hchecked
    | true =>
      obtain ⟨hresult, hprobed, hline⟩ := probe_alike hchecked hline
      simp only at hresult hprobed hline
      rcases hp₁ : (probe (Replay.transport.source c₁)).run v₁ with ⟨result₁, u₁⟩
      rcases hp₂ : (probe (Replay.transport.source c₂)).run v₂ with ⟨result₂, u₂⟩
      rw [hp₁, hp₂] at hresult hprobed hline
      obtain rfl : result₁ = result₂ := hresult
      cases result₁ with
      | error e =>
        rw [connect_of_probe_error hs hc ho₁ ha₁ hp₁, connect_of_probe_error hs hc ho₂ ha₂ hp₂]
        refine attachFailed hidle ?_ e
        rw [Replay.close_cycle, Replay.close_cycle]
        exact hprobed
      | ok lockUsage =>
        rw [connect_of_probe_ok hs hc ho₁ ha₁ hp₁, connect_of_probe_ok hs hc ho₂ ha₂ hp₂]
        have hcache : ({ id := c₁ } : Connection).cache = ({ id := c₂ } : Connection).cache := rfl
        exact (on { s with state := .connecting, lockUsage } hprobed hcache hline).apply _

end Twins

end Session

/-! ### Tracked instances -/

/-- What there is of a tracked instance: its description, all that was read of it, and its seat. -/
abbrev Standing := VmDescriptor × Gauges × Option (Session × Option ReplayConnection)

namespace TrackedVm

def standing (vm : TrackedVm) (world : World Replay) : Standing :=
  (vm.descriptor, vm.gauges, world.seat vm.session)

section

variable {vm vm₁ vm₂ : TrackedVm} {world w₁ w₂ : World Replay}

theorem state_eq_of_seat (h : w₁.seat vm₁.session = w₂.seat vm₂.session) :
    vm₁.state w₁.registry = vm₂.state w₂.registry := by
  simp only [World.seat] at h
  cases h₁ : w₁.registry.session? vm₁.session with
  | none =>
    cases h₂ : w₂.registry.session? vm₂.session with
    | none => simp [state, h₁, h₂]
    | some s₂ => simp [h₁, h₂] at h
  | some s₁ =>
    cases h₂ : w₂.registry.session? vm₂.session with
    | none => simp [h₁, h₂] at h
    | some s₂ =>
      simp only [h₁, h₂, Option.map_some, Option.some.injEq] at h
      rw [state_of_some h₁, state_of_some h₂]
      exact congrArg (fun x => x.1.state) h

/-- A row shows what there is of an instance. -/
theorem row_eq_of_standing (h : vm₁.standing w₁ = vm₂.standing w₂) :
    vm₁.row w₁.registry = vm₂.row w₂.registry := by
  simp only [standing, Prod.mk.injEq] at h
  obtain ⟨hdescriptor, hgauges, hseat⟩ := h
  simp only [row, id, metrics, hdescriptor, hgauges, state_eq_of_seat hseat]

/-- An update leaves the seats of others as they are. -/
theorem spares_update (h : world.Apart) (vm : TrackedVm) :
    World.Spares (· ≠ vm.session) world (vm.update Replay.transport world).2.2 := by
  simp only [update]
  exact World.Spares.onSession h _ _ _ fun s _ => vm.gauges.moves_update s world.peers vm.id

/-- What an update makes of an instance depends on what there is of it. -/
theorem standing_update (h : vm₁.standing w₁ = vm₂.standing w₂)
    (hcycle : w₁.peers.cycle = w₂.peers.cycle) :
    (vm₁.update Replay.transport w₁).2.1.standing (vm₁.update Replay.transport w₁).2.2 =
      (vm₂.update Replay.transport w₂).2.1.standing (vm₂.update Replay.transport w₂).2.2 := by
  simp only [standing, Prod.mk.injEq] at h
  obtain ⟨hdescriptor, hgauges, hseat⟩ := h
  simp only [World.seat] at hseat
  cases h₁ : w₁.registry.session? vm₁.session with
  | none =>
    cases h₂ : w₂.registry.session? vm₂.session with
    | none =>
      rw [update_of_no_session _ h₁, update_of_no_session _ h₂]
      simp [h₁, h₂, standing, World.seat, hdescriptor, hgauges]
    | some s₂ => simp [h₁, h₂] at hseat
  | some s₁ =>
    cases h₂ : w₂.registry.session? vm₂.session with
    | none => simp [h₁, h₂] at hseat
    | some s₂ =>
      simp only [h₁, h₂, Option.map_some, Option.some.injEq] at hseat
      have htwins : Session.Twins s₁ w₁.peers s₂ w₂.peers := ⟨hcycle, hseat⟩
      obtain ⟨hgauges', htwins'⟩ := htwins.update vm₁.gauges vm₁.id
      have hid : vm₂.id = vm₁.id := by simp only [id, hdescriptor]
      rcases hu₁ : vm₁.gauges.update Replay.transport vm₁.id s₁ w₁.peers with ⟨_, g₁, s₁', r₁⟩
      rcases hu₂ : vm₁.gauges.update Replay.transport vm₁.id s₂ w₂.peers with ⟨_, g₂, s₂', r₂⟩
      rw [hu₁, hu₂] at hgauges' htwins'
      rw [← hid, hgauges] at hu₂
      rw [update_of_session _ h₁ hu₁, update_of_session _ h₂ hu₂]
      simp only [standing, World.seat_put_self h₁, World.seat_put_self h₂, hdescriptor]
      rw [show g₁ = g₂ from hgauges', htwins'.seat]

/-! ### Tracking an instance -/

/-- The world in which an instance that was not registered gets its session. -/
def opened (d : VmDescriptor) (world : World Replay) : World Replay :=
  ⟨⟨world.registry.sessions ++ [Session.new d.id d.endpoint],
    world.registry.registered.set d.id world.registry.sessions.length⟩, world.peers⟩

/-- What a new session is put through. -/
def greet (d : VmDescriptor) (s : Session) (r : Replay) : Unit × Session × Replay :=
  ((), if d.attachable then (s.connect Replay.transport r).2 else s.markNotAttachable Replay.transport r)

variable {d : VmDescriptor}

theorem session?_opened (d : VmDescriptor) (world : World Replay) :
    (opened d world).registry.session? world.registry.sessions.length =
      some (Session.new d.id d.endpoint) := by
  simp [opened, Registry.session?]

theorem settle_eq (h : world.registry.get? d.id = none) : settle Replay.transport d world =
    ({ descriptor := d, session := world.registry.sessions.length },
      ((opened d world).onSession world.registry.sessions.length () (greet d)).2) := by
  simp only [settle, Registry.attach_of_get?_eq_none h]
  rfl

theorem moves_greet (d : VmDescriptor) (r : Replay) :
    (Session.new d.id d.endpoint).Moves r (greet d (Session.new d.id d.endpoint) r).2.1
      (greet d (Session.new d.id d.endpoint) r).2.2 := by
  simp only [greet]
  split_ifs
  · exact Session.moves_connect rfl rfl r
  · exact Session.moves_apply _ r _

/-- A newly tracked instance gets one session more, and all that were there are left as they are. -/
theorem spares_settle (h : world.Apart) (hnone : world.registry.get? d.id = none) :
    World.Spares (fun _ => True) world (settle Replay.transport d world).2 ∧
      world.registry.sessions.length < (settle Replay.transport d world).2.registry.sessions.length := by
  have hnew := World.spares_new h d.id d.endpoint
    (world.registry.registered.set d.id world.registry.sessions.length)
  have hgreet : World.Spares (· ≠ world.registry.sessions.length) (opened d world)
      (settle Replay.transport d world).2 := by
    rw [settle_eq hnone]
    refine World.Spares.onSession hnew.apart _ _ _ fun s hs => ?_
    obtain rfl : Session.new d.id d.endpoint = s :=
      Option.some_inj.1 ((session?_opened d world).symm.trans hs)
    exact moves_greet d _
  have hboth := (hnew.mono (Q := (· ≠ world.registry.sessions.length)) fun _ _ => trivial).trans hgreet
  refine ⟨{ hboth with seat := fun j hj _ => hboth.seat j hj (Nat.ne_of_lt hj) }, ?_⟩
  exact Nat.lt_of_lt_of_le (by simp [opened]) hgreet.length_le

theorem settle_session (hnone : world.registry.get? d.id = none) :
    (settle Replay.transport d world).1.session = world.registry.sessions.length := by
  rw [settle_eq hnone]

theorem spares_attach (h : world.Apart) (hnone : world.registry.get? d.id = none) :
    World.Spares (fun _ => True) world (attach Replay.transport d world).2 ∧
      world.registry.sessions.length < (attach Replay.transport d world).2.registry.sessions.length := by
  obtain ⟨hsettle, hlt⟩ := spares_settle h hnone
  rw [attach_eq]
  split_ifs
  · have hupdate := spares_update hsettle.apart (settle Replay.transport d world).1
    rw [settle_session hnone] at hupdate
    have hboth := (hsettle.mono (Q := (· ≠ world.registry.sessions.length))
      fun _ _ => trivial).trans hupdate
    refine ⟨{ hboth with seat := fun j hj _ => hboth.seat j hj (Nat.ne_of_lt hj) }, ?_⟩
    exact Nat.lt_of_lt_of_le hlt hupdate.length_le
  · exact ⟨hsettle, hlt⟩

theorem attach_descriptor (d : VmDescriptor) (world : World Replay) :
    (attach Replay.transport d world).1.descriptor = d := by
  rw [attach_eq]
  split_ifs <;> rfl

theorem attach_session (hnone : world.registry.get? d.id = none) :
    (attach Replay.transport d world).1.session = world.registry.sessions.length := by
  rw [attach_eq, ← settle_session hnone]
  split_ifs <;> rfl

/-- What becomes of a newly tracked instance depends on its description, on the clock and on what an
attempt to connect meets. -/
theorem standing_settle (h₁ : w₁.registry.get? d.id = none) (h₂ : w₂.registry.get? d.id = none)
    (hcycle : w₁.peers.cycle = w₂.peers.cycle)
    (hmeet : w₁.peers.meet d.endpoint = w₂.peers.meet d.endpoint) :
    (settle Replay.transport d w₁).1.standing (settle Replay.transport d w₁).2 =
      (settle Replay.transport d w₂).1.standing (settle Replay.transport d w₂).2 := by
  have htwins : Session.Twins (greet d (Session.new d.id d.endpoint) w₁.peers).2.1
      (greet d (Session.new d.id d.endpoint) w₁.peers).2.2
      (greet d (Session.new d.id d.endpoint) w₂.peers).2.1
      (greet d (Session.new d.id d.endpoint) w₂.peers).2.2 := by
    simp only [greet]
    split_ifs
    · exact .connect rfl rfl hcycle hmeet
    · exact (Session.Twins.idle rfl hcycle).apply _
  rw [settle_eq h₁, settle_eq h₂]
  simp only [World.onSession_of_some (session?_opened d w₁),
    World.onSession_of_some (session?_opened d w₂), standing,
    World.seat_put_self (session?_opened d w₁), World.seat_put_self (session?_opened d w₂)]
  exact congrArg (fun x => (d, _, some x)) htwins.seat

theorem standing_attach (ha₁ : w₁.Apart) (ha₂ : w₂.Apart) (h₁ : w₁.registry.get? d.id = none)
    (h₂ : w₂.registry.get? d.id = none) (hcycle : w₁.peers.cycle = w₂.peers.cycle)
    (hmeet : w₁.peers.meet d.endpoint = w₂.peers.meet d.endpoint) :
    (attach Replay.transport d w₁).1.standing (attach Replay.transport d w₁).2 =
      (attach Replay.transport d w₂).1.standing (attach Replay.transport d w₂).2 := by
  have hstanding := standing_settle h₁ h₂ hcycle hmeet
  have hstate := state_eq_of_seat (congrArg (fun x => x.2.2) hstanding)
  rw [attach_eq, attach_eq, hstate]
  split_ifs
  · refine standing_update hstanding ?_
    rw [(spares_settle ha₁ h₁).1.cycle, (spares_settle ha₂ h₂).1.cycle, hcycle]
  · exact hstanding

end

end TrackedVm

end VmMonitor
