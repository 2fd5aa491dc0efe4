import VmMonitor.Proofs.Instance.Update
import VmMonitor.Scenario.Replay

/-!
# Who touches what in a replay

All instances of a scenario share one replay: its clock, its connections, its statistics. An operation
on a session touches the connection that the session holds, may open a new one, and counts requests.

## What is proved

* `Session.Moves` — what an operation on a session may do to the replay, for each of the operations.
* `World.seat` — what there is of one session: the session and the connection behind it.
-/

namespace VmMonitor

open Exchange

namespace Replay

/-- From `r` to `r'` requests were counted and nothing else has changed. -/
structure Quiet (r r' : Replay) : Prop where
  scenario : r'.scenario = r.scenario
  cycle : r'.cycle = r.cycle
  connections : r'.connections = r.connections

theorem Quiet.refl (r : Replay) : Quiet r r := ⟨rfl, rfl, rfl⟩

theorem Quiet.count {r r' : Replay} (h : Quiet r r') (stats : ReplayStats) :
    Quiet r { r' with stats } := ⟨h.scenario, h.cycle, h.connections⟩

/-- Two connections answer alike if they are alike and the clocks agree, and all they do to their
replays is to count. -/
theorem source_alike {c₁ c₂ : ConnectionId} {r₁ r₂ : Replay} (hcycle : r₁.cycle = r₂.cycle)
    (hline : r₁.connections[c₁]? = r₂.connections[c₂]?) :
    (transport.source c₁).Alike (fun x y => Quiet r₁ x ∧ Quiet r₂ y) (transport.source c₂) := by
  rintro request x y ⟨hx, hy⟩
  have hline' : x.connections[c₁]? = y.connections[c₂]? := by
    rw [hx.connections, hy.connections, hline]
  have hcycle' : x.cycle = y.cycle := by
    rw [hx.cycle, hy.cycle, hcycle]
  change Beside _ (ask c₁ request x) (ask c₂ request y)
  simp only [ask, hline']
  cases y.connections[c₂]? with
  | none => exact ⟨rfl, hx.count _, hy.count _⟩
  | some c => exact ⟨by simp only [hcycle'], hx.count _, hy.count _⟩

/-- What a liveness check leaves of a connection. -/
def checked (cycle : Nat) (x : ReplayConnection) : ReplayConnection :=
  if x.closed then x else { x with alive := livesIn x cycle }

theorem isAlive_eq (c : ConnectionId) (r : Replay) : r.isAlive c =
    (r.connections[c]?.any fun x => livesIn x r.cycle,
      { r with
        connections := r.connections.modify c (checked r.cycle)
        stats := { r.stats with livenessChecks := r.stats.livenessChecks + 1 } }) := by
  simp only [isAlive, List.modify_eq_set_getElem?]
  cases r.connections[c]? <;> rfl

theorem close_eq (c : ConnectionId) (r : Replay) : r.close c =
    { r with connections := r.connections.modify c fun x => { x with closed := true } } := by
  simp only [close, List.modify_eq_set_getElem?]
  cases r.connections[c]? <;> rfl

variable {r : Replay} {e : Endpoint}

theorem connect_of_error {error : ConnectionError} (h : r.meet e = .error error) :
    transport.connect e r =
      (.error error, { r with stats := { r.stats with connects := r.stats.connects + 1 } }) := by
  change r.connect e = _
  have hmeet : ({ r with stats := { r.stats with connects := r.stats.connects + 1 } } : Replay).meet e =
      .error error := h
  simp only [connect, hmeet]

/-- A new connection comes last. -/
theorem connect_of_ok {target : ScenarioInstance} {alive : Bool} (h : r.meet e = .ok (target, alive)) :
    transport.connect e r = (.ok r.connections.length,
      { r with
        connections := r.connections ++ [⟨target, alive, false⟩]
        stats := { r.stats with connects := r.stats.connects + 1 } }) := by
  change r.connect e = _
  have hmeet : ({ r with stats := { r.stats with connects := r.stats.connects + 1 } } : Replay).meet e =
      .ok (target, alive) := h
  simp only [connect, hmeet]

/-- A new connection leaves the others as they are. -/
theorem getElem?_connect {c : ConnectionId} {x : ReplayConnection}
    (h : r.connections[c]? = some x) : (r.connect e).2.connections[c]? = some x := by
  simp only [connect]
  split
  · exact h
  · rwa [List.getElem?_append_left (List.getElem?_eq_some_iff.1 h).1]

end Replay

namespace Session

/-- The number of the connection that a session holds. -/
def line? (s : Session) : Option ConnectionId := s.connection.map (·.id)

/-- What an operation may do that takes a session from `s` to `s'` and the replay from `r` to `r'`: the
clock stands, connections are not lost, those that are there and that are not the session's stay as
they are, and a connection that the session did not hold is new. -/
structure Moves (s : Session) (r : Replay) (s' : Session) (r' : Replay) : Prop where
  scenario : r'.scenario = r.scenario
  cycle : r'.cycle = r.cycle
  length_le : r.connections.length ≤ r'.connections.length
  others : ∀ c < r.connections.length, s.line? ≠ some c → r'.connections[c]? = r.connections[c]?
  line : ∀ c, s'.line? = some c →
    s.line? = some c ∨ r.connections.length ≤ c ∧ c < r'.connections.length

namespace Moves

variable {s s' s'' : Session} {r r' r'' : Replay}

theorem trans (h : Moves s r s' r') (h' : Moves s' r' s'' r'') : Moves s r s'' r'' where
  scenario := h'.scenario.trans h.scenario
  cycle := h'.cycle.trans h.cycle
  length_le := Nat.le_trans h.length_le h'.length_le
  others c hc hs := by
    have hs' : s'.line? ≠ some c := by
      intro hs'
      rcases h.line c hs' with hs'' | ⟨hge, -⟩
      · exact hs hs''
      · exact absurd hc (Nat.not_lt.2 hge)
    rw [h'.others c (Nat.lt_of_lt_of_le hc h.length_le) hs', h.others c hc hs]
  line c hc := by
    rcases h'.line c hc with hc' | ⟨hge, hlt⟩
    · exact (h.line c hc').imp_right fun ⟨hge, hlt⟩ => ⟨hge, Nat.lt_of_lt_of_le hlt h'.length_le⟩
    · exact .inr ⟨Nat.le_trans h.length_le hge, hlt⟩

theorem of_quiet (h : Replay.Quiet r r') (hs : s'.line? = s.line?) : Moves s r s' r' where
  scenario := h.scenario
  cycle := h.cycle
  length_le := Nat.le_of_eq (by rw [h.connections])
  others _ _ _ := by rw [h.connections]
  line c hc := .inl (hs ▸ hc)

theorem refl (s : Session) (r : Replay) : Moves s r s r := of_quiet (.refl r) rfl

/-- Nothing but the connection of the session is changed, and it is kept or given up. -/
theorem of_touch {c : ConnectionId} {f : ReplayConnection → ReplayConnection}
    (hscenario : r'.scenario = r.scenario) (hcycle : r'.cycle = r.cycle)
    (hr' : r'.connections = r.connections.modify c f) (hs : s.line? = some c)
    (hs' : s'.line? = some c ∨ s'.line? = none) : Moves s r s' r' where
  scenario := hscenario
  cycle := hcycle
  length_le := Nat.le_of_eq (by rw [hr', List.length_modify])
  others c' _ hne := by
    have hne' : c ≠ c' := fun heq => hne (heq ▸ hs)
    rw [hr', List.getElem?_modify]
    simp [hne']
  line c' hc' := by
    rcases hs' with hs' | hs'
    · exact .inl (by rw [hs, ← hs', hc'])
    · simp [hs'] at hc'

/-- A connection is given up and closed. -/
theorem close {c : ConnectionId} (hs : s.line? = some c) (hs' : s'.line? = none) :
    Moves s r s' (r.close c) := by
  rw [Replay.close_eq]
  exact of_touch rfl rfl rfl hs (.inr hs')

/-- A connection is checked. -/
theorem isAlive {c : ConnectionId} (hs : s.line? = some c) (hs' : s'.line? = some c) :
    Moves s r s' (r.isAlive c).2 := by
  rw [Replay.isAlive_eq]
  exact of_touch rfl rfl rfl hs (.inl hs')

end Moves

/-! ### The operations -/

section

variable (s : Session) (r : Replay)

theorem moves_disconnect : Moves s r (s.disconnect Replay.transport r).1
    (s.disconnect Replay.transport r).2 := by
  cases hc : s.connection with
  | none =>
    rw [disconnect_of_none Replay.transport hc]
    exact .refl s r
  | some c =>
    rw [disconnect_of_some Replay.transport hc]
    exact .close (by simp [line?, hc]) rfl

theorem moves_apply (e : SessionEvent) : Moves s r (s.apply Replay.transport e r).1
    (s.apply Replay.transport e r).2 := by
  have hnext : Moves s r { s with state := s.state.next e } r := .of_quiet (.refl r) rfl
  simp only [apply]
  split_ifs
  · exact .refl s r
  · exact hnext.trans (moves_disconnect _ r)
  · exact hnext

theorem moves_isLive : Moves s r (s.isLive Replay.transport r).2.1
    (s.isLive Replay.transport r).2.2 := by
  have hasked {c : Connection} {alive : Bool} {r' : Replay} (hc : s.connection = some c)
      (ha : Replay.transport.isAlive c.id r = (alive, r')) : Moves s r s r' := by
    have hline : s.line? = some c.id := by simp [line?, hc]
    have hmoves := Moves.isAlive (r := r) hline hline
    change r.isAlive c.id = _ at ha
    rwa [ha] at hmoves
  rcases s.isLive_cases Replay.transport r with ⟨_, _, hc, ha, h⟩ | ⟨_, r', hc, ha, h⟩ | ⟨-, h⟩
  · rw [h]
    exact hasked hc ha
  · rw [h]
    exact (hasked hc ha).trans (moves_apply s r' .livenessLost)
  · rw [h]
    exact moves_apply s r .livenessLost

end

end Session

namespace Gauges

/-- A reading only counts. -/
theorem quiet_sample (c : ConnectionId) (lockUsage : Bool) (g : Gauges) (cache : Cache) (r : Replay) :
    Replay.Quiet r ((sample (Cache.source (Replay.transport.source c)) lockUsage).run
      (g, cache, r)).2.2.2 := by
  have halike := (Replay.source_alike (rfl : r.cycle = r.cycle)
    (rfl : r.connections[c]? = r.connections[c]?)).cached.sample lockUsage (g, cache, r) (g, cache, r)
    ⟨rfl, rfl, .refl r, .refl r⟩
  exact halike.2.2.2.1

variable (g : Gauges) (s : Session) (r : Replay)

theorem moves_readSession : Session.Moves s r (g.readSession Replay.transport s r).2.2.1
    (g.readSession Replay.transport s r).2.2.2 := by
  cases hc : s.connection with
  | none =>
    rw [readSession_of_none _ hc]
    exact .refl s r
  | some c =>
    rcases hrun : (sample (Cache.source (Replay.transport.source c.id)) s.lockUsage).run
      (g, c.cache.flush, r) with ⟨result, g', cache, r'⟩
    have hquiet := quiet_sample c.id s.lockUsage g c.cache.flush r
    rw [hrun] at hquiet
    rw [readSession_of_run _ hc hrun]
    exact .of_quiet hquiet (by simp [Session.line?, hc])

theorem moves_update (id : InstanceId) :
    Session.Moves s r (g.update Replay.transport id s r).2.2.1
      (g.update Replay.transport id s r).2.2.2 := by
  have hlive := s.moves_isLive r
  have hread {x : Except ConnectionError Unit} {g₁ : Gauges} {s₁ s₂ : Session} {r₁ r₂ r' : Replay}
      {e : SessionEvent} (hl : s.isLive Replay.transport r = (true, s, r₁))
      (hr : g.readSession Replay.transport s r₁ = (x, g₁, s₁, r₂))
      (ha : s₁.apply Replay.transport e r₂ = (s₂, r')) : Session.Moves s r s₂ r' := by
    have hread := moves_readSession g s r₁
    have happly := s₁.moves_apply r₂ e
    rw [hl] at hlive
    rw [hr] at hread
    rw [ha] at happly
    exact (hlive.trans hread).trans happly
  generalize hu : g.update Replay.transport id s r = x
  cases way_of_update _ hu with
  | idle => exact .refl s r
  | lost _ hl => simpa only [hl] using hlive
  | done _ hl hr ha => exact hread hl hr ha
  | failed _ hl hr ha => exact hread hl hr ha

end Gauges

namespace Session

theorem quiet_probe (c : ConnectionId) (r : Replay) :
    Replay.Quiet r ((probe (Replay.transport.source c)).run r).2 :=
  ((Replay.source_alike (rfl : r.cycle = r.cycle)
    (rfl : r.connections[c]? = r.connections[c]?)).probe r r ⟨.refl r, .refl r⟩).2.1

/-- Connections that are alike answer the first questions alike, and are alike after that. -/
theorem probe_alike {c₁ c₂ : ConnectionId} {r₁ r₂ : Replay} (hcycle : r₁.cycle = r₂.cycle)
    (hline : r₁.connections[c₁]? = r₂.connections[c₂]?) :
    ((probe (Replay.transport.source c₁)).run r₁).1 =
      ((probe (Replay.transport.source c₂)).run r₂).1 ∧
    ((probe (Replay.transport.source c₁)).run r₁).2.cycle =
      ((probe (Replay.transport.source c₂)).run r₂).2.cycle ∧
    ((probe (Replay.transport.source c₁)).run r₁).2.connections[c₁]? =
      ((probe (Replay.transport.source c₂)).run r₂).2.connections[c₂]? := by
  obtain ⟨hresult, hquiet₁, hquiet₂⟩ :=
    (Replay.source_alike hcycle hline).probe r₁ r₂ ⟨.refl r₁, .refl r₂⟩
  refine ⟨hresult, ?_, ?_⟩
  · rw [hquiet₁.cycle, hquiet₂.cycle, hcycle]
  · rw [hquiet₁.connections, hquiet₂.connections, hline]

/-- A first attempt to connect. -/
theorem moves_connect {s : Session} (hs : s.state = .init) (hc : s.connection = none) (r : Replay) :
    Moves s r (s.connect Replay.transport r).2.1 (s.connect Replay.transport r).2.2 := by
  have hline : s.line? = none := by simp [line?, hc]
  rcases connect_cases Replay.transport hs hc r with
    ⟨e, r₁, ho, hend⟩ | ⟨c, r₁, alive, r₂, ho, ha, hrest⟩
  · -- No connection is opened.
    rw [hend.world]
    have hquiet : Replay.Quiet r r₁ := by
      rcases hm : r.meet s.endpoint with e' | ⟨target, alive⟩
      · rw [Replay.connect_of_error hm] at ho
        cases ho
        exact ⟨rfl, rfl, rfl⟩
      · rw [Replay.connect_of_ok hm] at ho
        cases ho
    exact .of_quiet hquiet (by simp [line?, hend.connection, hc])
  · -- A new connection is opened, which the session holds while it is looked at.
    let s₁ : Session := { s with connection := some { id := c } }
    have hline₁ : s₁.line? = some c := rfl
    have hopen : Moves s r s₁ r₁ := by
      rcases hm : r.meet s.endpoint with e' | ⟨target, alive⟩
      · rw [Replay.connect_of_error hm] at ho
        cases ho
      · rw [Replay.connect_of_ok hm] at ho
        cases ho
        refine ⟨rfl, rfl, by simp, fun c hc _ => ?_, fun c hc => ?_⟩
        · simp [List.getElem?_append_left hc]
        · obtain rfl : r.connections.length = c := by simpa [line?, s₁] using hc
          exact .inr ⟨Nat.le_refl _, by simp⟩
    have halive : Moves s₁ r₁ s₁ r₂ := by
      have hmoves := Moves.isAlive (r := r₁) hline₁ hline₁
      change r₁.isAlive c = _ at ha
      rwa [ha] at hmoves
    have hclose {r' : Replay} {s' : Session} (hs' : s'.connection = none) :
        Moves s₁ r' s' (r'.close c) := .close hline₁ (by simp [line?, hs'])
    have hprobe {result : Except ConnectionError Bool} {r₃ : Replay}
        (hp : (probe (Replay.transport.source c)).run r₂ = (result, r₃)) : Moves s₁ r₂ s₁ r₃ := by
      have hquiet := quiet_probe c r₂
      rw [hp] at hquiet
      exact .of_quiet hquiet rfl
    have hasked := hopen.trans halive
    rcases hrest with ⟨-, hend⟩ | ⟨-, e, r₃, hp, hend⟩ | ⟨-, lockUsage, r₃, hp, hkept⟩
    · rw [hend.world]
      exact hasked.trans (hclose hend.connection)
    · rw [hend.world]
      exact (hasked.trans (hprobe hp)).trans (hclose hend.connection)
    · rw [hkept]
      exact (hasked.trans (hprobe hp)).trans (.of_quiet (.refl r₃) rfl)

end Session

/-! ### Seats -/

/-- The session apart from the number of its connection, and the connection behind it. -/
def Session.seat (s : Session) (r : Replay) : Session × Option ReplayConnection :=
  ({ s with connection := s.connection.map fun c => { c with id := 0 } },
    s.line?.bind fun c => r.connections[c]?)

namespace World

/-- What there is of one session. -/
def seat (i : SessionId) (world : World Replay) : Option (Session × Option ReplayConnection) :=
  (world.registry.session? i).map (·.seat world.peers)

/-- Every session has its own connection. -/
structure Apart (world : World Replay) : Prop where
  inRange : ∀ {i s c}, world.registry.session? i = some s → s.line? = some c →
    c < world.peers.connections.length
  distinct : ∀ {i j s s' c}, world.registry.session? i = some s → s.line? = some c →
    world.registry.session? j = some s' → s'.line? = some c → i = j

section

variable {world : World Replay} {i j : SessionId} {s s' : Session} {r' : Replay}

/-- An operation on a session keeps the connections of sessions apart. -/
theorem Apart.put (h : world.Apart) (hs : world.registry.session? i = some s)
    (hm : s.Moves world.peers s' r') : Apart ⟨world.registry.put i s', r'⟩ where
  inRange {j s'' c} hj hc := by
    by_cases hij : j = i
    · subst hij
      rw [Registry.session?_put_self hs] at hj
      cases hj
      rcases hm.line c hc with hc' | ⟨-, hlt⟩
      · exact Nat.lt_of_lt_of_le (h.inRange hs hc') hm.length_le
      · exact hlt
    · rw [Registry.session?_put_of_ne hij] at hj
      exact Nat.lt_of_lt_of_le (h.inRange hj hc) hm.length_le
  distinct {j k s₁ s₂ c} hj hjc hk hkc := by
    -- The session itself has its old connection or a new one, which nobody else has.
    have hself {k : SessionId} {s'' : Session} (hne : k ≠ i) (hk : world.registry.session? k = some s'')
        (hkc : s''.line? = some c) : s'.line? ≠ some c := by
      intro hc
      rcases hm.line c hc with hc' | ⟨hge, -⟩
      · exact hne (h.distinct hk hkc hs hc')
      · exact absurd (h.inRange hk hkc) (Nat.not_lt.2 hge)
    by_cases hji : j = i <;> by_cases hki : k = i
    · rw [hji, hki]
    · subst hji
      rw [Registry.session?_put_self hs] at hj
      rw [Registry.session?_put_of_ne hki] at hk
      cases hj
      exact absurd hjc (hself hki hk hkc)
    · subst hki
      rw [Registry.session?_put_self hs] at hk
      rw [Registry.session?_put_of_ne hji] at hj
      cases hk
      exact absurd hkc (hself hji hj hjc)
    · rw [Registry.session?_put_of_ne hji] at hj
      rw [Registry.session?_put_of_ne hki] at hk
      exact h.distinct hj hjc hk hkc

/-- An operation on a session leaves the seats of others as they are. -/
theorem seat_put_of_ne (h : world.Apart) (hs : world.registry.session? i = some s)
    (hm : s.Moves world.peers s' r') (hj : j ≠ i) :
    seat j ⟨world.registry.put i s', r'⟩ = world.seat j := by
  simp only [seat, Registry.session?_put_of_ne hj]
  cases hsj : world.registry.session? j with
  | none => rfl
  | some s'' =>
    cases hline : s''.line? with
    | none => simp [Session.seat, hline]
    | some c =>
      have hne : s.line? ≠ some c := fun hc => hj (h.distinct hsj hline hs hc)
      simp [Session.seat, hline, hm.others c (h.inRange hsj hline) hne]

theorem seat_put_self (hs : world.registry.session? i = some s) :
    seat i ⟨world.registry.put i s', r'⟩ = some (s'.seat r') := by
  simp [seat, Registry.session?_put_self hs]

end

/-- From `world` to `world'` the clock stands, sessions are only added, and the seats of the sessions
in `P` stay as they are. -/
structure Spares (P : SessionId → Prop) (world world' : World Replay) : Prop where
  apart : world'.Apart
  scenario : world'.peers.scenario = world.peers.scenario
  cycle : world'.peers.cycle = world.peers.cycle
  length_le : world.registry.sessions.length ≤ world'.registry.sessions.length
  seat : ∀ j < world.registry.sessions.length, P j → world'.seat j = world.seat j

namespace Spares

variable {P Q : SessionId → Prop} {world world' world'' : World Replay}

theorem refl (h : world.Apart) : Spares P world world :=
  ⟨h, rfl, rfl, Nat.le_refl _, fun _ _ _ => rfl⟩

theorem trans (h : Spares P world world') (h' : Spares P world' world'') :
    Spares P world world'' where
  apart := h'.apart
  scenario := h'.scenario.trans h.scenario
  cycle := h'.cycle.trans h.cycle
  length_le := Nat.le_trans h.length_le h'.length_le
  seat j hj hP := (h'.seat j (Nat.lt_of_lt_of_le hj h.length_le) hP).trans (h.seat j hj hP)

theorem mono (h : Spares P world world') (hQ : ∀ j, Q j → P j) : Spares Q world world' :=
  { h with seat := fun j hj hj' => h.seat j hj (hQ j hj') }

/-- An operation on one session. -/
theorem onSession {α : Type} (h : world.Apart) (i : SessionId) (a : α)
    (f : Session → Replay → α × Session × Replay)
    (hf : ∀ s, world.registry.session? i = some s →
      s.Moves world.peers (f s world.peers).2.1 (f s world.peers).2.2) :
    Spares (· ≠ i) world (world.onSession i a f).2 := by
  cases hs : world.registry.session? i with
  | none =>
    rw [onSession_of_none hs]
    exact refl h
  | some s =>
    have hm := hf s hs
    rw [onSession_of_some hs]
    exact ⟨h.put hs hm, hm.scenario, hm.cycle, by simp [Registry.put],
      fun j _ hj => seat_put_of_ne h hs hm hj⟩

end Spares

/-- A session that is new has no connection yet. -/
theorem spares_new {world : World Replay} (h : world.Apart) (id : InstanceId) (e : Endpoint)
    (registered : Register InstanceId SessionId) :
    Spares (fun _ => True) world
      ⟨⟨world.registry.sessions ++ [Session.new id e], registered⟩, world.peers⟩ := by
  have hold {i : SessionId} {s : Session} {c : ConnectionId}
      (hi : (Registry.mk (world.registry.sessions ++ [Session.new id e]) registered).session? i = some s)
      (hc : s.line? = some c) : world.registry.session? i = some s := by
    simp only [Registry.session?, List.getElem?_append] at hi
    split_ifs at hi with hlt
    · exact hi
    · obtain rfl := List.mem_singleton.1 (List.mem_of_getElem? hi)
      simp [Session.line?, Session.new] at hc
  refine ⟨⟨fun hi hc => h.inRange (hold hi hc) hc,
    fun hi hic hj hjc => h.distinct (hold hi hic) hic (hold hj hjc) hjc⟩, rfl, rfl, by simp,
    fun j hj _ => ?_⟩
  simp [seat, Registry.session?, List.getElem?_append_left hj]

end World

end VmMonitor
