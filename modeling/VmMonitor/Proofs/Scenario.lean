import Mathlib.Data.List.Nodup
import Mathlib.Tactic.SplitIfs
import VmMonitor.Scenario

/-!
# Valid scenarios

A scenario is refused for one reason only: two of its instances have one process id.
-/

namespace VmMonitor.Scenario

/-- No process id is found twice exactly if none is there twice and none is one of those seen. -/
theorem duplicate?_eq_none_iff {seen pids : List InstanceId} :
    duplicate? seen pids = none ↔ pids.Nodup ∧ ∀ pid ∈ pids, pid ∉ seen := by
  induction pids generalizing seen with
  | nil => simp [duplicate?]
  | cons pid pids ih =>
    simp only [duplicate?, List.contains_iff_mem]
    split_ifs with hseen
    · simp [hseen]
    · simp only [ih, List.nodup_cons, List.mem_cons, not_or, forall_eq_or_imp]
      constructor
      · rintro ⟨hnodup, hnew⟩
        exact ⟨⟨fun hmem => (hnew pid hmem).1 rfl, hnodup⟩, hseen, fun p hp => (hnew p hp).2⟩
      · rintro ⟨⟨hpid, hnodup⟩, -, hnew⟩
        exact ⟨hnodup, fun p hp => ⟨fun heq => hpid (heq ▸ hp), hnew p hp⟩⟩

/-- A scenario is valid exactly if its process ids are distinct. -/
theorem validate_eq_ok_iff {s : Scenario} :
    s.validate = .ok s ↔ (s.instances.map (·.pid)).Nodup := by
  have hnone : s.validate = .ok s ↔ duplicate? [] (s.instances.map (·.pid)) = none := by
    unfold validate
    cases duplicate? [] (s.instances.map (·.pid)) <;> simp
  rw [hnone, duplicate?_eq_none_iff]
  simp

/-- What is not refused is given back as it is. -/
theorem eq_of_validate {s s' : Scenario} (h : s.validate = .ok s') : s = s' := by
  unfold validate at h
  split at h
  · cases h
  · exact Except.ok.inj h

end VmMonitor.Scenario
