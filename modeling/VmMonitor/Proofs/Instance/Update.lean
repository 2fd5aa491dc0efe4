import VmMonitor.Proofs.Session.Lifecycle
import VmMonitor.Proofs.Session.Registry

/-!
# One update

An update asks whether its peer lives, reads, and books the result on the session and on the count
of failures. It can go in four ways, and which of them is told by what was sent, what was returned
and where the session stands after it.

## What is proved

* `Gauges.sample_keeps` — a reading does not touch the count of failures, however far it comes.
* `Gauges.update_way` — an update goes in one of the four ways.
* `Gauges.update_course`, `TrackedVm.update_course` — what is seen of the way it goes.
-/

namespace VmMonitor

open Exchange

namespace Traffic

/-- A liveness check that finds somebody. -/
def isPass : Traffic → Bool
  | isAlive _ alive => alive
  | _ => false

end Traffic

namespace SessionState

variable {s : SessionState}

theorem next_updateSucceeded (h : s.isAttached) : s.next .updateSucceeded = attached := by
  cases s <;> simp_all [isAttached, next, isTerminal]

theorem next_updateFailed (h : s.isAttached) (count : Nat) :
    s.next (.updateFailed count) =
      if maxUpdateErrors < count then detached else attachedUpdateError := by
  cases s <;> simp_all [isAttached, next, isTerminal]

end SessionState

namespace Session

variable {ω : Type} (t : Transport ω)

section

variable {s s' : Session} {w w' : ω}

/-- Whoever is found is found over the connection, and leaves the session as it is. -/
theorem exists_connection_of_live (h : s.isLive t w = (true, s', w')) :
    ∃ c, s.connection = some c ∧ t.isAlive c.id w = (true, w') ∧ s' = s := by
  rcases s.isLive_cases t w with ⟨c, _, hc, ha, hlive⟩ | ⟨_, _, -, -, hlive⟩ | ⟨-, hlive⟩
  · cases h.symm.trans hlive
    exact ⟨c, hc, ha, rfl⟩
  · cases h.symm.trans hlive
  · cases h.symm.trans hlive

theorem isLive_of_true (h : s.isLive t w = (true, s', w')) : s' = s := by
  obtain ⟨-, -, -, hs⟩ := exists_connection_of_live t h
  exact hs

/-- If nobody is found, the other side is lost. -/
theorem apply_livenessLost_of_isLive (h : s.isLive t w = (false, s', w')) :
    ∃ w₁, s.apply t .livenessLost w₁ = (s', w') ∧
      (w₁ = w ∨ ∃ c, s.connection = some c ∧ t.isAlive c.id w = (false, w₁)) := by
  rcases s.isLive_cases t w with ⟨_, _, -, -, hlive⟩ | ⟨c, w₁, hc, ha, hlive⟩ | ⟨-, hlive⟩
  · cases h.symm.trans hlive
  · exact ⟨w₁, (Prod.mk.inj (hlive.symm.trans h)).2, .inr ⟨c, hc, ha⟩⟩
  · exact ⟨w, (Prod.mk.inj (hlive.symm.trans h)).2, .inl rfl⟩

theorem isLive_state_of_false (h : s.isLive t w = (false, s', w')) :
    s'.state = s.state.next .livenessLost := by
  obtain ⟨w₁, happly, -⟩ := apply_livenessLost_of_isLive t h
  rw [← apply_state t s .livenessLost w₁, happly]

end

/-- A liveness check of an attached session that finds nobody ends it. -/
theorem isLive_logged_of_false {s s' : Session} {x y : Logged ω} (hs : s.state.isAttached)
    (h : s.isLive t.logged x = (false, s', y)) :
    s'.state = .detached ∧ Sends (fun e => e.isPass = false ∧ e.isConnect = false) x y := by
  have hlost : s.state.next .livenessLost = .detached :=
    SessionState.next_livenessLost (SessionState.not_isTerminal_of_isAttached hs)
  refine ⟨(isLive_state_of_false _ h).trans hlost, ?_⟩
  obtain ⟨z, happly, hz⟩ := apply_livenessLost_of_isLive _ h
  have hsends : Sends (fun e => e.isPass = false ∧ e.isConnect = false) z y := by
    have hsends := sends_apply t (fun _ => ⟨rfl, rfl⟩) s .livenessLost z
      (P := fun e => e.isPass = false ∧ e.isConnect = false)
    rwa [happly] at hsends
  rcases hz with rfl | ⟨c, -, ha⟩
  · exact hsends
  · have hasked : Sends (fun e => e.isPass = false ∧ e.isConnect = false) x z :=
      ⟨[.isAlive c.id false], Transport.logged_isAlive ha, by simp [Traffic.isPass, Traffic.isConnect]⟩
    exact hasked.trans hsends

/-- A liveness check that finds somebody has asked over the connection. -/
theorem isLive_logged_of_true {s s' : Session} {x y : Logged ω}
    (h : s.isLive t.logged x = (true, s', y)) :
    ∃ c, s.connection = some c ∧ y.1 = x.1 ++ [.isAlive c.id true] := by
  obtain ⟨c, hc, ha, -⟩ := exists_connection_of_live _ h
  exact ⟨c, hc, Transport.logged_isAlive ha⟩

end Session

namespace Gauges

/-! ### The count of failures during a reading -/

section

variable {σ : Type} (src : Source σ) (n : Nat)

/-- The count of failures is `n`. -/
def Counts (x : Gauges × σ) : Prop := x.1.metrics.updateErrors = n

theorem beside_keeps {α : Type} (x : Exchange σ α) : Keeps (Counts n) (x.beside Gauges) :=
  Keeps.beside x fun g : Gauges => g.metrics.updateErrors = n

theorem modifyMetrics_keeps {f : Metrics → Metrics}
    (hf : ∀ m, (f m).updateErrors = m.updateErrors) :
    Keeps (Counts n) (modifyMetrics f : Exchange (Gauges × σ) Unit) :=
  fun x hx => (hf x.1.metrics).trans hx

theorem learnRuntime_keeps : Keeps (Counts n) (learnRuntime src) := by
  rintro ⟨g, s⟩ hg
  cases hr : g.runtime with
  | some info =>
    rw [run_learnRuntime_of_some src hr]
    exact hg
  | none =>
    rw [run_learnRuntime_of_none src hr]
    refine (beside_keeps n (RuntimeInfo.fetch src)).bind (fun info => ?_) _ hg
    exact fun _ h => h

theorem takeCounters_updateErrors (m : Metrics) (c : Counters) :
    (takeCounters m c).updateErrors = m.updateErrors := by
  simp only [takeCounters, Metrics.apply, MetricsOf.applySample]
  split_ifs <;> rfl

/-- A reading does not touch the count of failures, however far it comes. -/
theorem sample_keeps (lockUsage : Bool) : Keeps (Counts n) (sample src lockUsage) := by
  refine (learnRuntime_keeps src n).bind fun _ => (beside_keeps n _).bind fun counters => ?_
  refine (modifyMetrics_keeps n fun m => takeCounters_updateErrors m counters).bind fun _ => ?_
  refine (beside_keeps n _).bind fun _ => (modifyMetrics_keeps n ?_).bind fun _ => ?_
  · exact fun _ => rfl
  refine (beside_keeps n _).bind fun _ => (modifyMetrics_keeps n ?_).bind fun _ => ?_
  · exact fun _ => rfl
  refine (beside_keeps n _).bind fun _ => modifyMetrics_keeps n ?_
  exact fun _ => rfl

end

variable {ω : Type} (t : Transport ω)

/-- Without a connection nothing is read, which counts as a failure. -/
theorem readSession_of_none {g : Gauges} {s : Session} (hc : s.connection = none) (w : ω) :
    g.readSession t s w = (.error .closed, g, s, w) := by
  simp only [readSession, Session.flush_of_none hc, Session.read, hc]

/-- The reading of a session is a reading over its flushed cache. -/
theorem readSession_of_run {g g' : Gauges} {s : Session} {c : Connection}
    (hc : s.connection = some c) {w w' : ω} {result : Except ConnectionError Unit} {cache : Cache}
    (hrun : (sample (Cache.source (t.source c.id)) s.lockUsage).run (g, c.cache.flush, w) =
      (result, g', cache, w')) :
    g.readSession t s w = (result, g', { s with connection := some { c with cache } }, w') := by
  simp [readSession, Session.read, Session.flush, hc, hrun, StateT.run]

/-- A reading of a connected session leaves its state, its connection and the count of failures as
they are, and sends nothing but requests. -/
theorem readSession_logged {g : Gauges} {s : Session} {c : Connection} (hc : s.connection = some c)
    (x : Logged ω) :
    ∃ result g' cache y,
      readSession t.logged g s x =
        (result, g', { s with connection := some { c with cache := cache } }, y) ∧
      g'.metrics.updateErrors = g.metrics.updateErrors ∧ Sends (fun e => e.isAsk c.id) x y := by
  rcases hrun : (sample (Cache.source (t.logged.source c.id)) s.lockUsage).run (g, c.cache.flush, x)
    with ⟨result, g', cache, y⟩
  refine ⟨result, g', cache, y, readSession_of_run _ hc hrun, ?_, ?_⟩
  · have hkeeps := sample_keeps (Cache.source (t.logged.source c.id)) g.metrics.updateErrors
      s.lockUsage (g, c.cache.flush, x) rfl
    rwa [hrun] at hkeeps
  · have halike := (t.source_logged_alike c.id x).cached.sample s.lockUsage (g, c.cache.flush, x)
      (g, c.cache.flush, x.2) ⟨rfl, rfl, rfl, .refl x⟩
    rw [hrun] at halike
    exact halike.2.2.2.2

/-! ### The four ways -/

section

variable {t} {id : InstanceId} {g g' : Gauges} {s s' : Session} {w w₁ w₂ : ω}

theorem update_of_idle (hs : s.state.isAttached = false) : g.update t id s w = (.ok (), g, s, w) := by
  simp only [update, hs, Bool.false_eq_true, if_false]

theorem update_of_lost (hs : s.state.isAttached) (hlive : s.isLive t w = (false, s', w₁)) :
    g.update t id s w = (.error (.permanentDetach id), g, s', w₁) := by
  simp only [update, hs, hlive, if_true]

theorem update_of_done (hs : s.state.isAttached) (hlive : s.isLive t w = (true, s, w₁))
    (hread : g.readSession t s w₁ = (.ok (), g', s', w₂)) :
    g.update t id s w = (.ok (), g', s'.apply t .updateSucceeded w₂) := by
  simp only [update, hs, hlive, hread, if_true]

theorem update_of_failed {s'' : Session} {w' : ω} {e : ConnectionError} (hs : s.state.isAttached)
    (hlive : s.isLive t w = (true, s, w₁)) (hread : g.readSession t s w₁ = (.error e, g', s', w₂))
    (happly : s'.apply t (.updateFailed (g'.metrics.updateErrors + 1)) w₂ = (s'', w')) :
    g.update t id s w = (.error (failure id s''.state (g'.metrics.updateErrors + 1) e),
      { g' with metrics := { g'.metrics with updateErrors := g'.metrics.updateErrors + 1 } },
      s'', w') := by
  simp only [update, hs, hlive, hread, happly, if_true]

end

/-- The ways in which an update of the readings `g` over the session `s` may go: what it returns, and
what it leaves of the readings, of the session and of the peers. -/
inductive Way (id : InstanceId) (g : Gauges) (s : Session) (w : ω) :
    Except MonitorError Unit × Gauges × Session × ω → Prop
  /-- Nothing is done for an instance that is not attached. -/
  | idle : s.state.isAttached = false → Way id g s w (.ok (), g, s, w)
  /-- Nobody is found. -/
  | lost {s' : Session} {w' : ω} : s.state.isAttached → s.isLive t w = (false, s', w') →
      Way id g s w (.error (.permanentDetach id), g, s', w')
  /-- Everything is read. -/
  | done {g' : Gauges} {s' s'' : Session} {w₁ w₂ w' : ω} : s.state.isAttached →
      s.isLive t w = (true, s, w₁) → g.readSession t s w₁ = (.ok (), g', s', w₂) →
      s'.apply t .updateSucceeded w₂ = (s'', w') → Way id g s w (.ok (), g', s'', w')
  /-- Something cannot be read, and the failure is counted. -/
  | failed {g' : Gauges} {s' s'' : Session} {w₁ w₂ w' : ω} {e : ConnectionError} :
      s.state.isAttached → s.isLive t w = (true, s, w₁) →
      g.readSession t s w₁ = (.error e, g', s', w₂) →
      s'.apply t (.updateFailed (g'.metrics.updateErrors + 1)) w₂ = (s'', w') →
      Way id g s w (.error (failure id s''.state (g'.metrics.updateErrors + 1) e),
        { g' with metrics := { g'.metrics with updateErrors := g'.metrics.updateErrors + 1 } }, s'', w')

/-- **An update** goes in one of the four ways. -/
theorem update_way (id : InstanceId) (g : Gauges) (s : Session) (w : ω) :
    Way t id g s w (g.update t id s w) := by
  by_cases hs : s.state.isAttached
  swap
  · have hoff : s.state.isAttached = false := by simpa using hs
    rw [update_of_idle hoff]
    exact .idle hoff
  rcases hlive : s.isLive t w with ⟨_ | _, s₁, w₁⟩
  · rw [update_of_lost hs hlive]
    exact .lost hs hlive
  obtain rfl := Session.isLive_of_true t hlive
  rcases hread : g.readSession t s₁ w₁ with ⟨e | _, g', s', w₂⟩
  · rcases happly : s'.apply t (.updateFailed (g'.metrics.updateErrors + 1)) w₂ with ⟨s'', w'⟩
    rw [update_of_failed hs hlive hread happly]
    exact .failed hs hlive hread happly
  · rw [update_of_done hs hlive hread]
    exact .done hs hlive hread rfl

theorem way_of_update {id : InstanceId} {g : Gauges} {s : Session} {w : ω}
    {x : Except MonitorError Unit × Gauges × Session × ω} (h : g.update t id s w = x) :
    Way t id g s w x := h ▸ update_way t id g s w

/-- How an update goes that starts with the readings `g` and in the state `s`: what it returns, the
readings and the state it leaves, and what it sends. -/
inductive Course (id : InstanceId) (g : Gauges) (s : SessionState) :
    Except MonitorError Unit → Gauges → SessionState → List Traffic → Prop
  /-- Nothing is done for an instance that is not attached. -/
  | idle : s.isAttached = false → Course id g s (.ok ()) g s []
  /-- Nobody is found. -/
  | lost {sent : List Traffic} : s.isAttached → sent.any Traffic.isPass = false →
      (∀ x ∈ sent, x.isConnect = false) →
      Course id g s (.error (.permanentDetach id)) g .detached sent
  /-- Everything was read. -/
  | done {g' : Gauges} {sent : List Traffic} : s.isAttached → sent.any Traffic.isPass →
      (∀ x ∈ sent, x.isConnect = false) →
      g'.metrics.updateErrors = g.metrics.updateErrors → Course id g s (.ok ()) g' .attached sent
  /-- Something could not be read. -/
  | failed {g' : Gauges} {sent : List Traffic} (e : MonitorError) : s.isAttached →
      sent.any Traffic.isPass → (∀ x ∈ sent, x.isConnect = false) →
      g'.metrics.updateErrors = g.metrics.updateErrors + 1 →
      Course id g s (.error e) g'
        (if maxUpdateErrors < g.metrics.updateErrors + 1 then .detached else .attachedUpdateError)
        sent

/-- No update makes an attempt to connect. -/
theorem Course.not_isConnect {id : InstanceId} {g g' : Gauges} {s s' : SessionState}
    {result : Except MonitorError Unit} {sent : List Traffic} (h : Course id g s result g' s' sent) :
    ∀ x ∈ sent, x.isConnect = false := by
  cases h with
  | idle _ => simp
  | lost _ _ hno => exact hno
  | done _ _ hno _ => exact hno
  | failed _ _ _ hno _ => exact hno

theorem update_course {id : InstanceId} {g g' : Gauges} {s s' : Session} {x y : Logged ω}
    {result : Except MonitorError Unit} (h : g.update t.logged id s x = (result, g', s', y)) :
    ∃ sent, y.1 = x.1 ++ sent ∧ Course id g s.state result g' s'.state sent := by
  have hasks {c : ConnectionId} {l : List Traffic} (hl : ∀ e ∈ l, e.isAsk c) :
      ∀ e ∈ l, e.isConnect = false := fun e he =>
    Traffic.isConnect_of_isUse (Traffic.isUse_of_isAsk (hl e he))
  cases way_of_update _ h with
  | idle hs => exact ⟨[], by simp, .idle hs⟩
  | lost hs hlive =>
    obtain ⟨hstate, sent, hsent, hno⟩ := Session.isLive_logged_of_false t hs hlive
    have hpass : sent.any Traffic.isPass = false := by simpa using fun e he => (hno e he).1
    exact ⟨sent, hsent, hstate ▸ .lost hs hpass fun e he => (hno e he).2⟩
  | @done _ _ _ x₁ _ _ hs hlive hread happly =>
    obtain ⟨c, hc, hx₁⟩ := Session.isLive_logged_of_true t hlive
    obtain ⟨_, _, cache, _, hread', hcount, l, hl, hask⟩ := readSession_logged t hc x₁ (g := g)
    cases hread.symm.trans hread'
    have hnext := SessionState.next_updateSucceeded hs
    rw [Session.apply_of_next_not_isTerminal _ (by simp [hnext, SessionState.isTerminal])] at happly
    simp only [Prod.mk.injEq] at happly
    obtain ⟨rfl, rfl⟩ := happly
    refine ⟨.isAlive c.id true :: l, by simp [hl, hx₁], ?_⟩
    simp only [hnext]
    exact .done hs rfl (by simpa [Traffic.isConnect] using hasks hask) hcount
  | @failed g₁ s₁ _ x₁ x₂ _ _ hs hlive hread happly =>
    obtain ⟨c, hc, hx₁⟩ := Session.isLive_logged_of_true t hlive
    have hstate := Session.apply_state t.logged s₁ (.updateFailed (g₁.metrics.updateErrors + 1)) x₂
    obtain ⟨l', hl', hno'⟩ := Session.sends_apply t (P := fun e => e.isConnect = false)
      (fun _ => rfl) s₁ (.updateFailed (g₁.metrics.updateErrors + 1)) x₂
    simp only [happly] at hstate hl'
    obtain ⟨_, _, cache, _, hread', hcount, l, hl, hask⟩ := readSession_logged t hc x₁ (g := g)
    cases hread.symm.trans hread'
    refine ⟨.isAlive c.id true :: (l ++ l'), by simp [hl', hl, hx₁], ?_⟩
    rw [hstate, SessionState.next_updateFailed hs, hcount]
    refine .failed _ hs rfl ?_ rfl
    rintro y (_ | ⟨_, hy⟩)
    · rfl
    · exact (List.mem_append.1 hy).elim (hasks hask y) (hno' y)

end Gauges

/-! ### On the session of an instance -/

namespace World

variable {ω α : Type} {world : World ω} {i : SessionId} {s : Session}

theorem onSession_of_none (h : world.registry.session? i = none) (a : α)
    (f : Session → ω → α × Session × ω) : world.onSession i a f = (a, world) := by
  simp [onSession, h]

theorem onSession_of_some (h : world.registry.session? i = some s) (a : α)
    (f : Session → ω → α × Session × ω) :
    world.onSession i a f =
      ((f s world.peers).1, ⟨world.registry.put i (f s world.peers).2.1, (f s world.peers).2.2⟩) := by
  simp [onSession, h]

/-- No operation on a session registers anyone. -/
theorem onSession_registered (a : α) (f : Session → ω → α × Session × ω) :
    (world.onSession i a f).2.registry.registered = world.registry.registered := by
  cases h : world.registry.session? i with
  | none => rw [onSession_of_none h]
  | some s => rw [onSession_of_some h]; rfl

end World

namespace TrackedVm

variable {ω : Type} (t : Transport ω)

theorem state_of_some {vm : TrackedVm} {r : Registry} {s : Session}
    (h : r.session? vm.session = some s) : vm.state r = s.state := by
  simp [state, h]

/-- The update of an instance is that of its readings over its session. -/
theorem update_of_session {vm : TrackedVm} {world : World ω} {s s' : Session} {g' : Gauges} {w' : ω}
    {result : Except MonitorError Unit} (hs : world.registry.session? vm.session = some s)
    (hu : vm.gauges.update t vm.id s world.peers = (result, g', s', w')) :
    vm.update t world =
      (result, { vm with gauges := g' }, ⟨world.registry.put vm.session s', w'⟩) := by
  simp only [update, World.onSession_of_some hs, hu]

theorem update_of_no_session {vm : TrackedVm} {world : World ω}
    (hs : world.registry.session? vm.session = none) : vm.update t world = (.ok (), vm, world) := by
  simp only [update, World.onSession_of_none hs]

theorem update_registered (vm : TrackedVm) (world : World ω) :
    (vm.update t world).2.2.registry.registered = world.registry.registered := by
  simp only [update]
  exact World.onSession_registered _ _

theorem update_course {vm vm' : TrackedVm} {world world' : World (Logged ω)}
    {result : Except MonitorError Unit} (h : vm.update t.logged world = (result, vm', world')) :
    ∃ sent, world'.peers.1 = world.peers.1 ++ sent ∧ vm' = { vm with gauges := vm'.gauges } ∧
      Gauges.Course vm.id vm.gauges (vm.state world.registry) result vm'.gauges
        (vm'.state world'.registry) sent := by
  cases hs : world.registry.session? vm.session with
  | none =>
    rw [update_of_no_session _ hs] at h
    cases h
    exact ⟨[], by simp, rfl, .idle (by simp [state, hs, SessionState.isAttached])⟩
  | some s =>
    rcases hu : vm.gauges.update t.logged vm.id s world.peers with ⟨result', g', s', y⟩
    obtain ⟨sent, hsent, hcourse⟩ := Gauges.update_course t hu
    rw [update_of_session _ hs hu] at h
    cases h
    refine ⟨sent, hsent, rfl, ?_⟩
    have hput : ({ vm with gauges := g' } : TrackedVm).state (world.registry.put vm.session s') =
        s'.state := state_of_some (Registry.session?_put_self hs)
    dsimp only
    rwa [state_of_some hs, hput]

/-! ### Tracking an instance -/

/-- Tracking without the first update. -/
def settle (d : VmDescriptor) (world : World ω) : TrackedVm × World ω :=
  let (i, registry) := world.registry.attach d.id d.endpoint
  let (_, world) := World.onSession i () (fun s w =>
    ((), if d.attachable then (s.connect t w).2 else s.markNotAttachable t w))
    ⟨registry, world.peers⟩
  ({ descriptor := d, session := i }, world)

/-- An instance that was attached is updated at once. -/
theorem attach_eq (d : VmDescriptor) (world : World ω) :
    attach t d world =
      if (settle t d world).1.state (settle t d world).2.registry = .attached then
        ((settle t d world).1.update t (settle t d world).2).2
      else settle t d world := rfl

end TrackedVm

end VmMonitor
