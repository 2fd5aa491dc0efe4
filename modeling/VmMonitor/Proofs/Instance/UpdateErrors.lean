import VmMonitor.Proofs.Instance.Update

/-!
# Counting failed updates

An instance is tracked and then updated any number of times, over a peer that answers as it likes,
while others go on with their own sessions. The count of failures is kept with the readings, the
state with the session, and the limit with the states; this module says how the three go together.

## What is proved

* `Updated.counted` — **the invariant**: the count is the number of updates that found somebody and
  failed, and whoever counts more than the limit is over.
* `Updated.quiet` — an instance that is over is never heard of again.
* `TrackedVm.update_errors` — both for an instance since it is tracked, with what the next update
  can do to it.
-/

namespace VmMonitor

variable {ω : Type} (t : Transport ω)

/-! ### Runs of updates -/

/-- What an update returned and what it sent. -/
structure UpdateRecord where
  result : Except MonitorError Unit
  sent : List Traffic

namespace UpdateRecord

/-- The peer was found to live, and was read. -/
def passed (u : UpdateRecord) : Bool := u.sent.any Traffic.isPass

/-- The peer was found to live, and could not be read. -/
def failed (u : UpdateRecord) : Bool := u.passed && !u.result.isOk

end UpdateRecord

/-- The updates of an instance from `x` on. Between them anything may happen to the peers and to
other sessions, but nobody else uses the session of the instance. -/
inductive Updated (x : TrackedVm × World (Logged ω)) :
    List UpdateRecord → TrackedVm × World (Logged ω) → Prop
  | none : Updated x [] x
  | update {us : List UpdateRecord} {vm vm' : TrackedVm} {world world' : World (Logged ω)}
      {u : UpdateRecord} : Updated x us (vm, world) →
      vm.update t.logged world = (u.result, vm', world') →
      world'.peers.1 = world.peers.1 ++ u.sent → Updated x (us ++ [u]) (vm', world')
  | elsewhere {us : List UpdateRecord} {vm : TrackedVm} {world world' : World (Logged ω)} :
      Updated x us (vm, world) →
      world'.registry.session? vm.session = world.registry.session? vm.session →
      Updated x us (vm, world')

/-- The readings and the state after the updates `us`: the failures are counted, and whoever has too
many of them is over. -/
structure Counted (us : List UpdateRecord) (g : Gauges) (s : SessionState) : Prop where
  count : g.metrics.updateErrors = us.countP UpdateRecord.failed
  bound : g.metrics.updateErrors ≤ maxUpdateErrors + 1
  limit : maxUpdateErrors < g.metrics.updateErrors → s.isTerminal

/-- Whoever is attached has not passed the limit. -/
theorem Counted.le_of_isAttached {us : List UpdateRecord} {g : Gauges} {s : SessionState}
    (h : Counted us g s) (hs : s.isAttached) : g.metrics.updateErrors ≤ maxUpdateErrors := by
  by_contra hlt
  simpa [SessionState.not_isTerminal_of_isAttached hs] using h.limit (by omega)

/-! ### One update more -/

namespace Gauges.Course

variable {id : InstanceId} {g g' : Gauges} {s s' : SessionState} {result : Except MonitorError Unit}
  {sent : List Traffic}

/-- An instance that is not attached is left alone. -/
theorem quiet (h : Course id g s result g' s' sent) (hs : ¬ s.isAttached) :
    result = .ok () ∧ sent = [] ∧ g' = g ∧ s' = s := by
  cases h with
  | idle _ => exact ⟨rfl, rfl, rfl, rfl⟩
  | lost hs' _ _ => exact absurd hs' hs
  | done hs' _ _ _ => exact absurd hs' hs
  | failed _ hs' _ _ _ => exact absurd hs' hs

/-- The count grows by one if the update failed, and not otherwise. -/
theorem updateErrors (h : Course id g s result g' s' sent) :
    g'.metrics.updateErrors =
      g.metrics.updateErrors + if UpdateRecord.failed ⟨result, sent⟩ then 1 else 0 := by
  cases h with
  | idle _ => simp [UpdateRecord.failed, UpdateRecord.passed]
  | lost _ hpass _ => simp [UpdateRecord.failed, UpdateRecord.passed, hpass]
  | done _ _ _ hsame => simp [UpdateRecord.failed, Except.isOk, Except.toBool, hsame]
  | failed e _ hpass _ hmore =>
    simp [UpdateRecord.failed, UpdateRecord.passed, hpass, Except.isOk, Except.toBool, hmore]

theorem counted (h : Course id g s result g' s' sent) {us : List UpdateRecord}
    (hc : Counted us g s) : Counted (us ++ [⟨result, sent⟩]) g' s' := by
  have hbelow := hc.le_of_isAttached
  refine ⟨?_, ?_, ?_⟩
  · rw [h.updateErrors, hc.count, List.countP_append, List.countP_singleton]
  · cases h with
    | idle _ => exact hc.bound
    | lost _ _ _ => exact hc.bound
    | done _ _ _ hsame => exact hsame ▸ hc.bound
    | failed _ hs _ _ hmore =>
      have := hbelow hs
      omega
  · intro hlt
    cases h with
    | idle _ => exact hc.limit hlt
    | lost _ _ _ => rfl
    | done hs _ _ hsame =>
      have := hbelow hs
      omega
    | failed _ _ _ _ hmore =>
      rw [hmore] at hlt
      rw [if_pos hlt]
      rfl

/-- What the update of an instance that counts its failures does to it. -/
theorem outcome (h : Course id g s result g' s' sent) {us : List UpdateRecord} (hc : Counted us g s) :
    (UpdateRecord.passed ⟨result, sent⟩ →
      (result = .ok () → s' = .attached ∧ g'.metrics.updateErrors = g.metrics.updateErrors) ∧
      (result ≠ .ok () → g'.metrics.updateErrors = g.metrics.updateErrors + 1 ∧
        (g'.metrics.updateErrors ≤ maxUpdateErrors → s' = .attachedUpdateError)) ∧
      (s' = .detached ↔ g'.metrics.updateErrors = maxUpdateErrors + 1)) ∧
    (s.isAttached → ¬ UpdateRecord.passed ⟨result, sent⟩ →
      g' = g ∧ s' = .detached ∧ result = .error (.permanentDetach id)) := by
  have hbelow := hc.le_of_isAttached
  cases h with
  | idle hs => exact ⟨by simp [UpdateRecord.passed], by simp [hs]⟩
  | lost hs hpass _ => exact ⟨by simp [UpdateRecord.passed, hpass], fun _ _ => ⟨rfl, rfl, rfl⟩⟩
  | done hs hpass _ hsame =>
    have := hbelow hs
    refine ⟨fun _ => ⟨fun _ => ⟨rfl, hsame⟩, fun hne => absurd rfl hne, ?_⟩,
      fun _ hno => absurd hpass hno⟩
    exact iff_of_false (by simp) (by omega)
  | failed e hs hpass _ hmore =>
    have := hbelow hs
    refine ⟨fun _ => ⟨by simp, fun _ => ⟨hmore, fun hle => ?_⟩, ?_⟩,
      fun _ hno => absurd hpass hno⟩
    · rw [if_neg (by omega)]
    · split_ifs with hlt
      · exact iff_of_true rfl (by omega)
      · exact iff_of_false (by simp) (by omega)

end Gauges.Course

/-! ### Whole runs -/

/-- What was sent is what the record has more. -/
theorem TrackedVm.update_course_of_sent {t : Transport ω} {vm vm' : TrackedVm}
    {world world' : World (Logged ω)} {u : UpdateRecord}
    (h : vm.update t.logged world = (u.result, vm', world'))
    (hsent : world'.peers.1 = world.peers.1 ++ u.sent) :
    vm' = { vm with gauges := vm'.gauges } ∧
      Gauges.Course vm.id vm.gauges (vm.state world.registry) u.result vm'.gauges
        (vm'.state world'.registry) u.sent := by
  obtain ⟨sent, hsent', hvm, hcourse⟩ := TrackedVm.update_course t h
  obtain rfl : u.sent = sent := List.append_cancel_left (hsent.symm.trans hsent')
  exact ⟨hvm, hcourse⟩

namespace Updated

variable {t} {x y z : TrackedVm × World (Logged ω)} {us : List UpdateRecord}

/-- Any instance can be updated once more. -/
theorem again (h : Updated t x us y) :
    ∃ u, Updated t x (us ++ [u]) ((y.1.update t.logged y.2).2.1, (y.1.update t.logged y.2).2.2) := by
  obtain ⟨vm, world⟩ := y
  rcases hu : vm.update t.logged world with ⟨result, vm', world'⟩
  obtain ⟨sent, hsent, -⟩ := TrackedVm.update_course t hu
  exact ⟨⟨result, sent⟩, by simpa only [hu] using h.update (u := ⟨result, sent⟩) hu hsent⟩

/-- **The invariant**: the failures of a run are counted. -/
theorem counted (h : Updated t x us y) {us₀ : List UpdateRecord}
    (hx : Counted us₀ x.1.gauges (x.1.state x.2.registry)) :
    Counted (us₀ ++ us) y.1.gauges (y.1.state y.2.registry) := by
  induction h with
  | none => simpa using hx
  | update _ hu hsent ih =>
    rw [← List.append_assoc]
    exact (TrackedVm.update_course_of_sent hu hsent).2.counted ih
  | elsewhere _ hsame ih =>
    simp only [TrackedVm.state] at ih ⊢
    rwa [hsame]

/-- An instance that is not attached is never heard of again. -/
theorem quiet (h : Updated t x us y) (hx : ¬ (x.1.state x.2.registry).isAttached) :
    (∀ u ∈ us, u.result = .ok () ∧ u.sent = []) ∧ y.1 = x.1 ∧
      y.1.state y.2.registry = x.1.state x.2.registry := by
  induction h with
  | none => exact ⟨by simp, rfl, rfl⟩
  | @update us vm vm' world world' u _ hu hsent ih =>
    obtain ⟨hus, rfl, hstate⟩ := ih
    obtain ⟨hvm, hcourse⟩ := TrackedVm.update_course_of_sent hu hsent
    obtain ⟨hresult, hnothing, hg, hs⟩ := hcourse.quiet (by rwa [hstate])
    refine ⟨?_, ?_, hs.trans hstate⟩
    · intro u' hu'
      rcases List.mem_append.1 hu' with hu' | hu'
      · exact hus u' hu'
      · obtain rfl := List.mem_singleton.1 hu'
        exact ⟨hresult, hnothing⟩
    · rw [hg] at hvm
      exact hvm
  | elsewhere _ hsame ih =>
    obtain ⟨hus, hvm, hstate⟩ := ih
    refine ⟨hus, hvm, ?_⟩
    simp only [TrackedVm.state] at hstate ⊢
    rwa [hsame]

end Updated

/-! ### Since it is tracked -/

namespace TrackedVm

/-- Tracking an instance is a run of at most one update. -/
theorem updated_attach (d : VmDescriptor) (world : World (Logged ω)) :
    ∃ us, us.length ≤ 1 ∧ Updated t (settle t.logged d world) us (attach t.logged d world) := by
  rw [attach_eq]
  split_ifs
  · obtain ⟨u, hu⟩ := (Updated.none (t := t) (x := settle t.logged d world)).again
    exact ⟨[u], by simp, hu⟩
  · exact ⟨[], by simp, .none⟩

/-- **Counting failed updates.** Tracking an instance comes down to settling its session and at most
one update. In any run of updates from there, the count of failures is the number of updates that
found the peer alive and failed, and stays within one over the limit. If the next update finds the
peer alive, it leaves the instance attached if everything was read, and otherwise moves the count on
by one; it is the count that passes the limit which ends the session. If nobody is found, the
instance is over and keeps its readings. From then on the count only grows by further failures, and
an instance that is over is left alone for good. -/
theorem update_errors (d : VmDescriptor) (world₀ : World (Logged ω)) :
    (∃ first, first.length ≤ 1 ∧
      Updated t (settle t.logged d world₀) first (attach t.logged d world₀)) ∧
    ∀ us vm world, Updated t (settle t.logged d world₀) us (vm, world) →
      vm.metrics.updateErrors = us.countP UpdateRecord.failed ∧
      vm.metrics.updateErrors ≤ maxUpdateErrors + 1 ∧
      (∃ u : UpdateRecord, ∃ vm' world', vm.update t.logged world = (u.result, vm', world') ∧
        world'.peers.1 = world.peers.1 ++ u.sent ∧
        (u.passed →
          (u.result = .ok () → vm'.state world'.registry = .attached ∧
            vm'.metrics.updateErrors = vm.metrics.updateErrors) ∧
          (u.result ≠ .ok () → vm'.metrics.updateErrors = vm.metrics.updateErrors + 1 ∧
            (vm'.metrics.updateErrors ≤ maxUpdateErrors →
              vm'.state world'.registry = .attachedUpdateError)) ∧
          (vm'.state world'.registry = .detached ↔
            vm'.metrics.updateErrors = maxUpdateErrors + 1)) ∧
        ((vm.state world.registry).isAttached → ¬ u.passed → vm' = vm ∧
          vm'.state world'.registry = .detached ∧ u.result = .error (.permanentDetach vm.id))) ∧
      ∀ later vm' world', Updated t (vm, world) later (vm', world') →
        vm'.metrics.updateErrors = vm.metrics.updateErrors + later.countP UpdateRecord.failed ∧
        ((vm.state world.registry).isTerminal → (∀ u ∈ later, u.result = .ok () ∧ u.sent = []) ∧
          vm' = vm ∧ vm'.state world'.registry = vm.state world.registry) := by
  refine ⟨updated_attach t d world₀, fun us vm world h => ?_⟩
  have hstart : Counted [] (settle t.logged d world₀).1.gauges
      ((settle t.logged d world₀).1.state (settle t.logged d world₀).2.registry) :=
    ⟨rfl, Nat.zero_le _, fun hlt => absurd hlt (Nat.not_lt_zero _)⟩
  have hcounted : Counted us vm.gauges (vm.state world.registry) := h.counted hstart
  refine ⟨hcounted.count, hcounted.bound, ?_, fun later vm' world' h' => ⟨?_, fun hover => ?_⟩⟩
  · rcases hu : vm.update t.logged world with ⟨result, vm', world'⟩
    obtain ⟨sent, hsent, hvm, hcourse⟩ := update_course t hu
    obtain ⟨hpassed, hlost⟩ := hcourse.outcome hcounted
    refine ⟨⟨result, sent⟩, vm', world', rfl, hsent, hpassed, fun hon hno => ?_⟩
    obtain ⟨hg, hs, hresult⟩ := hlost hon hno
    exact ⟨by rw [hvm, hg], hs, hresult⟩
  · have hlater := (h'.counted hcounted).count
    rw [List.countP_append, ← hcounted.count] at hlater
    exact hlater
  · refine h'.quiet fun hon => ?_
    simp [SessionState.not_isTerminal_of_isAttached hon] at hover

/-- An instance whose peer lives and does not answer, since it is tracked. -/
theorem update_errors_of_mute :
    ∃ us vm world, Updated Transport.mute
        (settle Transport.mute.logged ⟨7, "", true, .localProcess 7⟩ ⟨{}, ([], 0)⟩) us (vm, world) ∧
      vm.state world.registry = .attachedUpdateError ∧ us.countP UpdateRecord.failed = 1 := by
  obtain ⟨⟨us, -, h⟩, hrun⟩ :=
    update_errors Transport.mute ⟨7, "", true, .localProcess 7⟩ ⟨{}, ([], 0)⟩
  exact ⟨us, _, _, h, by decide +kernel, (hrun us _ _ h).1.symm.trans (by decide +kernel)⟩

end TrackedVm

end VmMonitor
