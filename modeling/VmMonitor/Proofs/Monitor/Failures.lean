import VmMonitor.Proofs.Instance.UpdateErrors
import VmMonitor.Proofs.Monitor.Tracking

/-!
# Failed updates, cycle by cycle

A cycle updates every tracked instance once. An instance that it starts to track was updated before
that, at the end of its attachment, so that there is a baseline when it is shown for the first time.
It may therefore fail twice in its first cycle, and once in each cycle after that; and whoever is given
up for its failures may have failed in one cycle less than it has failures.

## What is proved

* `TrackedVm.update_follows`, `Monitor.updateAll_follows`, `Monitor.track_tracked` — what an update and
  the two halves of a cycle add to the count of failures.
* `Monitor.failures_cycle` — what a whole cycle adds.
* `Monitor.Recorded.failures_le` — **along a run**, failures are outnumbered by cycles with a failure by
  one at most, and only if there was a cycle with two of them.
* `Monitor.cycles_to_give_up` — what that comes to for an instance that is given up, and
  `Monitor.given_up_in_ten_cycles`, that ten cycles can be enough.
-/

namespace VmMonitor

variable {ω : Type} (t : Transport ω)

/-! ### The count of an instance -/

/-- The failed updates of an instance; none if it is not among the given ones. -/
def failuresOf (id : InstanceId) (vms : List TrackedVm) : Nat :=
  ((vms.find? fun vm => vm.id = id).map (·.metrics.updateErrors)).getD 0

section

variable {id : InstanceId} {vm : TrackedVm} {vms vms' : List TrackedVm}

theorem failuresOf_cons (id : InstanceId) (vm : TrackedVm) (vms : List TrackedVm) :
    failuresOf id (vm :: vms) = if vm.id = id then vm.metrics.updateErrors else failuresOf id vms := by
  simp only [failuresOf, List.find?_cons]
  by_cases h : vm.id = id <;> simp [h]

theorem failuresOf_of_not_mem (h : id ∉ vms.map (·.id)) : failuresOf id vms = 0 := by
  have hnone : (vms.find? fun vm => vm.id = id) = none := by
    simpa using h
  simp [failuresOf, hnone]

theorem failuresOf_of_mem (hnodup : (vms.map (·.id)).Nodup) (h : vm ∈ vms) :
    failuresOf vm.id vms = vm.metrics.updateErrors := by
  induction vms with
  | nil => simp at h
  | cons vm' vms ih =>
    obtain ⟨hhead, htail⟩ := List.nodup_cons.1 hnodup
    rw [failuresOf_cons]
    rcases List.mem_cons.1 h with rfl | h
    · rw [if_pos rfl]
    · have hne : vm'.id ≠ vm.id := fun heq => hhead (List.mem_map.2 ⟨vm, h, heq.symm⟩)
      rw [if_neg hne, ih htail h]

/-- The order of instances makes no difference. -/
theorem failuresOf_perm (hnodup : (vms.map (·.id)).Nodup) (h : vms'.Perm vms) (id : InstanceId) :
    failuresOf id vms' = failuresOf id vms := by
  have hnodup' : (vms'.map (·.id)).Nodup := (h.map _).nodup_iff.2 hnodup
  by_cases hid : id ∈ vms.map (·.id)
  · obtain ⟨vm, hvm, rfl⟩ := List.mem_map.1 hid
    rw [failuresOf_of_mem hnodup hvm, failuresOf_of_mem hnodup' (h.mem_iff.2 hvm)]
  · rw [failuresOf_of_not_mem hid, failuresOf_of_not_mem (mt (h.map _).mem_iff.1 hid)]

theorem failuresOf_append (id : InstanceId) (vms vms' : List TrackedVm) :
    failuresOf id (vms ++ vms') =
      if id ∈ vms.map (·.id) then failuresOf id vms else failuresOf id vms' := by
  induction vms with
  | nil => rfl
  | cons vm vms ih =>
    rw [List.cons_append, failuresOf_cons, failuresOf_cons, ih]
    by_cases h : vm.id = id
    · simp [h]
    · simp [h, Ne.symm h]

theorem failuresOf_le {n : Nat} (h : ∀ vm ∈ vms, vm.metrics.updateErrors ≤ n) (id : InstanceId) :
    failuresOf id vms ≤ n := by
  induction vms with
  | nil => exact Nat.zero_le n
  | cons vm vms ih =>
    rw [failuresOf_cons]
    split_ifs
    · exact h vm (.head _)
    · exact ih fun vm' hvm' => h vm' (.tail _ hvm')

end

/-! ### Updates -/

/-- A failed update that leaves an instance detached has passed the limit. -/
theorem Gauges.Course.lt_updateErrors {id : InstanceId} {g g' : Gauges} {s s' : SessionState}
    {result : Except MonitorError Unit} {sent : List Traffic} (h : Course id g s result g' s' sent)
    (hfailed : UpdateRecord.failed ⟨result, sent⟩) (hs' : s' = .detached) :
    maxUpdateErrors < g'.metrics.updateErrors := by
  cases h with
  | idle _ => simp [UpdateRecord.failed, UpdateRecord.passed] at hfailed
  | lost _ hpass _ => simp [UpdateRecord.failed, UpdateRecord.passed, hpass] at hfailed
  | done _ _ _ _ => cases hs'
  | failed e _ _ _ hmore =>
    rw [hmore]
    by_contra hle
    rw [if_neg hle] at hs'
    cases hs'

namespace TrackedVm

/-- The same instance, with one failed update more at most. -/
structure Follows (vm vm' : TrackedVm) : Prop where
  id_eq : vm'.id = vm.id
  le : vm.metrics.updateErrors ≤ vm'.metrics.updateErrors
  le_succ : vm'.metrics.updateErrors ≤ vm.metrics.updateErrors + 1

theorem update_follows (vm : TrackedVm) (world : World (Logged ω)) :
    vm.Follows (vm.update t.logged world).2.1 := by
  rcases hu : vm.update t.logged world with ⟨result, vm', world'⟩
  obtain ⟨sent, -, hvm, hcourse⟩ := update_course t hu
  have hcount := hcourse.updateErrors
  refine ⟨?_, ?_, ?_⟩
  · rw [hvm]
    rfl
  all_goals
    simp only [metrics, hcount]
    split_ifs <;> omega

/-- An instance that is tracked now has been updated once at most. -/
theorem attach_updateErrors (d : VmDescriptor) (world : World (Logged ω)) :
    (attach t.logged d world).1.metrics.updateErrors ≤ 1 := by
  rw [attach_eq]
  split_ifs
  · exact (update_follows t _ _).le_succ
  · exact Nat.zero_le 1

/-- An update finds the peer alive, cannot read it, and leaves the instance detached. -/
def GivesUp (vm : TrackedVm) (world : World (Logged ω)) : Prop :=
  ∃ (u : UpdateRecord) (vm' : TrackedVm) (world' : World (Logged ω)),
    vm.update t.logged world = (u.result, vm', world') ∧
    world'.peers.1 = world.peers.1 ++ u.sent ∧ u.failed ∧ vm'.state world'.registry = .detached

/-- Whoever is given up has failed too often. -/
theorem GivesUp.lt_updateErrors {vm : TrackedVm} {world : World (Logged ω)} (h : vm.GivesUp t world) :
    maxUpdateErrors < (vm.update t.logged world).2.1.metrics.updateErrors := by
  obtain ⟨u, vm', world', hu, hsent, hfailed, hstate⟩ := h
  obtain ⟨-, hcourse⟩ := update_course_of_sent hu hsent
  rw [hu]
  exact hcourse.lt_updateErrors hfailed hstate

/-- Whoever has failed once more and is detached was given up. -/
theorem GivesUp.of_updateErrors {vm : TrackedVm} {world : World (Logged ω)}
    (hcount : (vm.update t.logged world).2.1.metrics.updateErrors = vm.metrics.updateErrors + 1)
    (hstate : (vm.update t.logged world).2.1.state (vm.update t.logged world).2.2.registry = .detached) :
    vm.GivesUp t world := by
  rcases hu : vm.update t.logged world with ⟨result, vm', world'⟩
  obtain ⟨sent, hsent, -, hcourse⟩ := update_course t hu
  rw [hu] at hcount hstate
  refine ⟨⟨result, sent⟩, vm', world', hu, hsent, ?_, hstate⟩
  by_contra hnot
  have hsame := hcourse.updateErrors
  rw [if_neg hnot] at hsame
  exact absurd (hcount.symm.trans hsame) (Nat.succ_ne_self _)

end TrackedVm

/-! ### One cycle -/

namespace Monitor

/-- The failed updates of an instance; none before it is tracked. -/
def failures (id : InstanceId) (m : Monitor) : Nat := failuresOf id m.tracked

/-- The updates that `updateAll` makes, each with the world that it finds. -/
def updates : List TrackedVm → World ω → List (TrackedVm × World ω)
  | [], _ => []
  | vm :: vms, world => (vm, world) :: updates vms (vm.update t world).2.2

/-- The first updates that `track` makes, of the instances that it can attach to. -/
def firstUpdates : List VmDescriptor → List TrackedVm → World ω → List (TrackedVm × World ω)
  | [], _, _ => []
  | d :: ds, tracked, world =>
    if tracked.any fun vm => vm.id = d.id then firstUpdates ds tracked world
    else
      let settled := TrackedVm.settle t d world
      let (vm, world) := TrackedVm.attach t d world
      let later := firstUpdates ds (tracked ++ [vm]) world
      if settled.1.state settled.2.registry = .attached then settled :: later else later

/-- All updates of a cycle. -/
def cycleUpdates (directory : Directory ω) (m : Monitor) (w : ω) : List (TrackedVm × World ω) :=
  match m.discovery.poll directory w with
  | (.error _, _, _) => []
  | (.ok added, _, w) =>
    let (tracked, world) := track t added m.tracked ⟨m.registry, w⟩
    firstUpdates t added m.tracked ⟨m.registry, w⟩ ++ updates t tracked world

/-- Updating all instances adds one failure to each of them at most. -/
theorem updateAll_follows (vms : List TrackedVm) (world : World (Logged ω)) :
    List.Forall₂ TrackedVm.Follows vms (updateAll t.logged vms world).1 := by
  induction vms generalizing world with
  | nil => exact .nil
  | cons vm vms ih => exact .cons (TrackedVm.update_follows t vm world) (ih _)

theorem failuresOf_follows {vms vms' : List TrackedVm} (h : List.Forall₂ TrackedVm.Follows vms vms')
    (id : InstanceId) :
    failuresOf id vms ≤ failuresOf id vms' ∧ failuresOf id vms' ≤ failuresOf id vms + 1 := by
  induction h with
  | nil => exact ⟨Nat.le_refl 0, Nat.zero_le 1⟩
  | cons hvm _ ih =>
    simp only [failuresOf_cons, hvm.id_eq]
    split_ifs
    · exact ⟨hvm.le, hvm.le_succ⟩
    · exact ih

/-- Whoever is updated is there afterwards, as its update has left it. -/
theorem mem_updateAll {vms : List TrackedVm} {world : World ω} {u : TrackedVm × World ω}
    (h : u ∈ updates t vms world) : (u.1.update t u.2).2.1 ∈ (updateAll t vms world).1 := by
  induction vms generalizing world with
  | nil => simp [updates] at h
  | cons vm vms ih =>
    simp only [updates, updateAll] at h ⊢
    rcases List.mem_cons.1 h with rfl | h
    · exact .head _
    · exact .tail _ (ih h)

/-- Tracking keeps those that were tracked, and the others have failed once at most. -/
theorem track_tracked (ds : List VmDescriptor) (tracked : List TrackedVm) (world : World (Logged ω)) :
    ∃ vms, (track t.logged ds tracked world).1 = tracked ++ vms ∧
      (∀ vm ∈ vms, vm.metrics.updateErrors ≤ 1) ∧
      ∀ u ∈ firstUpdates t.logged ds tracked world, (u.1.update t.logged u.2).2.1 ∈ vms := by
  induction ds generalizing tracked world with
  | nil => exact ⟨[], by simp [track], by simp, by simp [firstUpdates]⟩
  | cons d ds ih =>
    by_cases hd : d.id ∈ tracked.map (·.id)
    · have hany : (tracked.any fun vm => vm.id = d.id) = true := by simpa using hd
      simp only [track_cons_of_mem t.logged hd, firstUpdates, hany, if_true]
      exact ih tracked world
    have hany : (tracked.any fun vm => vm.id = d.id) = false := by simpa using hd
    obtain ⟨vms, htrack, hvms, hfirst⟩ := ih (tracked ++ [(TrackedVm.attach t.logged d world).1])
      (TrackedVm.attach t.logged d world).2
    refine ⟨(TrackedVm.attach t.logged d world).1 :: vms, ?_, ?_, ?_⟩
    · rw [track_cons_of_not_mem t.logged hd, htrack, List.append_assoc, List.singleton_append]
    · intro vm hvm
      rcases List.mem_cons.1 hvm with rfl | hvm
      · exact TrackedVm.attach_updateErrors t d world
      · exact hvms vm hvm
    · intro u hu
      simp only [firstUpdates, hany, Bool.false_eq_true, if_false] at hu
      split_ifs at hu with hon
      · rcases List.mem_cons.1 hu with rfl | hu
        · rw [TrackedVm.attach_eq, if_pos hon]
          exact .head _
        · exact .tail _ (hfirst u hu)
      · exact .tail _ (hfirst u hu)

variable {t} {directory : Directory ω} {m m' : Monitor} {x x' : Logged ω}
  {result : Except MonitorError (List InstanceRow)}

/-- **A cycle** adds one failure at most to an instance that is tracked, and two to any other; and an
instance that is given up in it has failed too often when it is over. -/
theorem failures_cycle (hnodup : (m'.tracked.map (·.id)).Nodup)
    (hc : m.cycle t.logged directory.logged x = (result, m', x')) (id : InstanceId) :
    (m.failures id ≤ m'.failures id ∧
      m'.failures id ≤ m.failures id + if id ∈ m.tracked.map (·.id) then 1 else 2) ∧
    ∀ u ∈ m.cycleUpdates t.logged directory.logged x, u.1.id = id → u.1.GivesUp t u.2 →
      maxUpdateErrors < m'.failures id := by
  rcases hpoll : m.discovery.poll directory.logged x with ⟨e | added, d, y⟩
  · simp only [cycle, hpoll, Prod.mk.injEq] at hc
    obtain ⟨-, rfl, -⟩ := hc
    refine ⟨⟨Nat.le_refl _, Nat.le_add_right _ _⟩, ?_⟩
    simp [cycleUpdates, hpoll]
  obtain ⟨vms, htrack, hvms, hfirst⟩ := track_tracked t added m.tracked ⟨m.registry, y⟩
  rcases htr : track t.logged added m.tracked ⟨m.registry, y⟩ with ⟨tracked, world⟩
  obtain rfl : tracked = m.tracked ++ vms := by rw [← htrack, htr]
  have hfollows := updateAll_follows t (m.tracked ++ vms) world
  have hmem := @mem_updateAll _ t.logged (m.tracked ++ vms) world
  have hsame := (updateAll_spec t.logged (m.tracked ++ vms) world).1
  rcases hup : updateAll t.logged (m.tracked ++ vms) world with ⟨updated, world'⟩
  simp only [hup] at hfollows hmem hsame
  simp only [cycle, hpoll, htr, hup, Prod.mk.injEq] at hc
  obtain ⟨-, rfl, -⟩ := hc
  -- The order of the rows does not matter for the counts.
  have hsort : (m.order.sort TrackedVm.metrics updated).Perm updated := List.mergeSort_perm _ _
  have hupdated : (updated.map (·.id)).Nodup := (hsort.map _).nodup_iff.1 hnodup
  have htracked : ((m.tracked ++ vms).map (·.id)).Nodup := by
    have hids : updated.map (·.id) = (m.tracked ++ vms).map (·.id) := by
      simpa [Function.comp_def, TrackedVm.id] using congrArg (List.map fun p => p.1.id) hsame
    rwa [← hids]
  have hfailures : failuresOf id (m.order.sort TrackedVm.metrics updated) = failuresOf id updated :=
    failuresOf_perm hupdated hsort id
  obtain ⟨hle, hle'⟩ := failuresOf_follows hfollows id
  have happend := failuresOf_append id m.tracked vms
  simp only [failures, hfailures]
  refine ⟨?_, fun u hu hid hgives => ?_⟩
  · split_ifs at happend ⊢ with hid
    · omega
    · have hold : failuresOf id m.tracked = 0 := failuresOf_of_not_mem hid
      have hnew := failuresOf_le hvms id
      omega
  have hlt := hgives.lt_updateErrors
  obtain rfl : (u.1.update t.logged u.2).2.1.id = id :=
    (TrackedVm.update_follows t u.1 u.2).id_eq.trans hid
  simp only [cycleUpdates, hpoll, htr] at hu
  rcases List.mem_append.1 hu with hu | hu
  · have hin : (u.1.update t.logged u.2).2.1 ∈ m.tracked ++ vms :=
      List.mem_append_right _ (hfirst u hu)
    rw [failuresOf_of_mem htracked hin] at hle
    omega
  · rwa [failuresOf_of_mem hupdated (hmem hu)]

/-! ### Runs of cycles -/

/-- The cycles of a monitor from `m₀` on, each by the monitor before and after it. Between two cycles
anything may happen to the peers and to what is listed. -/
inductive Recorded (t : Transport ω) (directory : Directory ω) (m₀ : Monitor) :
    List (Monitor × Monitor) → Monitor → Logged ω → Prop
  | start (w : ω) : Recorded t directory m₀ [] m₀ ([], w)
  | cycle {past : List (Monitor × Monitor)} {m m' : Monitor} {x x' : Logged ω}
      {result : Except MonitorError (List InstanceRow)} : Recorded t directory m₀ past m x →
      m.cycle t.logged directory.logged x = (result, m', x') →
      Recorded t directory m₀ (past ++ [(m, m')]) m' x'
  | elsewhere {past : List (Monitor × Monitor)} {m : Monitor} {log : List Traffic} {w : ω} (w' : ω) :
      Recorded t directory m₀ past m (log, w) → Recorded t directory m₀ past m (log, w')

/-- The instance failed in a cycle. -/
def failedIn (id : InstanceId) (c : Monitor × Monitor) : Bool := c.1.failures id < c.2.failures id

/-- The instance failed twice in a cycle. -/
def failedTwiceIn (id : InstanceId) (c : Monitor × Monitor) : Bool :=
  c.1.failures id + 1 < c.2.failures id

namespace Recorded

variable {order : SortOrder} {interval : Nat} {past : List (Monitor × Monitor)}

theorem cycled {m₀ : Monitor} (h : Recorded t directory m₀ past m x) :
    Cycled t directory m₀ m x := by
  induction h with
  | start w => exact .start w
  | cycle _ hc ih => exact ih.cycle hc
  | elsewhere w' _ ih => exact ih.elsewhere w'

/-- The next cycle. -/
theorem next (h : Recorded t directory (new order interval) past m x)
    (hc : m.cycle t.logged directory.logged x = (result, m', x')) (id : InstanceId) :
    (m.failures id ≤ m'.failures id ∧
      m'.failures id ≤ m.failures id + if id ∈ m.tracked.map (·.id) then 1 else 2) ∧
    ∀ u ∈ m.cycleUpdates t.logged directory.logged x, u.1.id = id → u.1.GivesUp t u.2 →
      maxUpdateErrors < m'.failures id :=
  failures_cycle (h.cycled.cycle hc).tracks.nodup hc id

/-- **Along a run** there are no more failures than cycles with a failure, except that the cycle which
started to track the instance may count for two. -/
theorem failures_le (h : Recorded t directory (new order interval) past m x) (id : InstanceId) :
    m.failures id ≤ past.countP (failedIn id) + if past.any (failedTwiceIn id) then 1 else 0 := by
  induction h with
  | start w => exact Nat.zero_le _
  | elsewhere w' _ ih => exact ih
  | @cycle past m m' x x' result hrun hc ih =>
    obtain ⟨⟨-, hle⟩, -⟩ := hrun.next hc id
    have hfailed : failedIn id (m, m') = true ↔ m.failures id < m'.failures id := decide_eq_true_iff
    have htwice : failedTwiceIn id (m, m') = true ↔ m.failures id + 1 < m'.failures id :=
      decide_eq_true_iff
    rw [List.countP_append, List.countP_singleton, List.any_append, List.any_cons, List.any_nil,
      Bool.or_false]
    by_cases hid : id ∈ m.tracked.map (·.id)
    · -- It fails once more at most, so it is settled whether it failed twice in a cycle.
      rw [if_pos hid] at hle
      have honce : failedTwiceIn id (m, m') = false := by
        rw [← Bool.not_eq_true, htwice]
        omega
      rw [honce, Bool.or_false]
      by_cases hlt : m.failures id < m'.failures id
      · rw [if_pos (hfailed.2 hlt)]
        omega
      · omega
    · -- This is the first cycle with the instance.
      have hzero : m.failures id = 0 := failuresOf_of_not_mem hid
      rw [if_neg hid, hzero] at hle
      rw [hzero] at hfailed htwice
      rcases hn : m'.failures id with _ | _ | n
      · exact Nat.zero_le _
      · rw [if_pos (hfailed.2 (by omega))]
        omega
      · rw [if_pos (hfailed.2 (by omega)), htwice.2 (by omega), Bool.or_true, if_pos rfl]
        omega

end Recorded

/-- **Giving up.** In any cycle, after any run of cycles over any peers and listings, the count of
failures does not fall; it grows by one at most for an instance that is tracked, and by two at most for
any other, which is updated twice in the cycle that starts to track it. An instance that is given up by
an update of the cycle has therefore failed in as many cycles as there are failures that a session
survives, this one included; and in one more if it did not fail twice in any of them. -/
theorem cycles_to_give_up {order : SortOrder} {interval : Nat} {past : List (Monitor × Monitor)}
    (h : Recorded t directory (new order interval) past m x)
    (hc : m.cycle t.logged directory.logged x = (result, m', x')) (id : InstanceId) :
    m.failures id ≤ m'.failures id ∧
    (m'.failures id ≤ m.failures id + if id ∈ m.tracked.map (·.id) then 1 else 2) ∧
    ∀ u ∈ m.cycleUpdates t.logged directory.logged x, u.1.id = id → u.1.GivesUp t u.2 →
      maxUpdateErrors ≤ (past ++ [(m, m')]).countP (failedIn id) ∧
      ((past ++ [(m, m')]).any (failedTwiceIn id) = false →
        maxUpdateErrors + 1 ≤ (past ++ [(m, m')]).countP (failedIn id)) := by
  obtain ⟨⟨hle, hle'⟩, hgives⟩ := h.next hc id
  refine ⟨hle, hle', fun u hu hid hup => ?_⟩
  have hlt := hgives u hu hid hup
  have hbound := (h.cycle hc).failures_le id
  refine ⟨?_, fun honce => ?_⟩
  · split_ifs at hbound <;> omega
  · rw [honce, if_neg Bool.false_ne_true] at hbound
    omega

/-! ### An instance that does not answer -/

/-- A listing of one instance. -/
def listingOne : Directory Nat := ⟨fun n => (.ok [⟨7, "", true, .localProcess 7⟩], n)⟩

/-- The first cycles with an instance that lives and does not answer. -/
def unanswered : Nat → List (Monitor × Monitor) × Monitor × Logged Nat
  | 0 => ([], new .heap 1, [], 0)
  | n + 1 =>
    let (past, m, x) := unanswered n
    let (_, m', x') := m.cycle Transport.mute.logged listingOne.logged x
    (past ++ [(m, m')], m', x')

theorem recorded_unanswered (n : Nat) : Recorded Transport.mute listingOne (new .heap 1)
    (unanswered n).1 (unanswered n).2.1 (unanswered n).2.2 := by
  induction n with
  | zero => exact .start 0
  | succ n ih => exact ih.cycle rfl

/-- It is given up in the tenth cycle. -/
theorem exists_givesUp_unanswered :
    ∃ u ∈ (unanswered 9).2.1.cycleUpdates Transport.mute.logged listingOne.logged (unanswered 9).2.2,
      u.1.id = 7 ∧ u.1.GivesUp Transport.mute u.2 := by
  have hu : ∃ u ∈ (unanswered 9).2.1.cycleUpdates Transport.mute.logged listingOne.logged
      (unanswered 9).2.2, u.1.id = 7 ∧
        (u.1.update Transport.mute.logged u.2).2.1.metrics.updateErrors =
          u.1.metrics.updateErrors + 1 ∧
        (u.1.update Transport.mute.logged u.2).2.1.state
          (u.1.update Transport.mute.logged u.2).2.2.registry = .detached := by
    decide +kernel
  obtain ⟨u, hmem, hid, hcount, hstate⟩ := hu
  exact ⟨u, hmem, hid, .of_updateErrors _ hcount hstate⟩

/-- The tenth cycle with it: it has failed in ten cycles by then. -/
theorem cycles_to_give_up_unanswered :
    10 ≤ (unanswered 10).1.countP (failedIn 7) := by
  obtain ⟨u, hmem, hid, hup⟩ := exists_givesUp_unanswered
  obtain ⟨-, -, hgives⟩ := cycles_to_give_up (recorded_unanswered 9) rfl 7
  exact (hgives u hmem hid hup).1

/-- **Eleven cycles are not needed**: the first cycle counts two failures, and in the tenth the instance
is given up. -/
theorem given_up_in_ten_cycles :
    (unanswered 0).2.1.failures 7 = 0 ∧ (unanswered 1).2.1.failures 7 = 2 ∧
    ∃ past m x m' x' result, Recorded Transport.mute listingOne (new .heap 1) past m x ∧
      m.cycle Transport.mute.logged listingOne.logged x = (result, m', x') ∧
      (∃ u ∈ m.cycleUpdates Transport.mute.logged listingOne.logged x,
        u.1.id = 7 ∧ u.1.GivesUp Transport.mute u.2) ∧
      (past ++ [(m, m')]).countP (failedIn 7) = 10 ∧ maxUpdateErrors + 1 = 11 := by
  refine ⟨by decide +kernel, by decide +kernel, _, _, _, _, _, _, recorded_unanswered 9, rfl,
    exists_givesUp_unanswered, ?_, rfl⟩
  change (unanswered 10).1.countP (failedIn 7) = 10
  decide +kernel

end Monitor

end VmMonitor
