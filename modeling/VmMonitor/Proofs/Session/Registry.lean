import VmMonitor.Proofs.Table
import VmMonitor.Session.Registry

/-!
# Sessions in the registry

What `attach` and `put` do to the sessions and to who is registered.
-/

namespace VmMonitor.Registry

variable {r : Registry} {i : SessionId} {s s' : Session}

theorem session?_put_self (h : r.session? i = some s) : (r.put i s').session? i = some s' := by
  have hi : i < r.sessions.length := (List.getElem?_eq_some_iff.1 h).1
  simp [session?, put, hi]

theorem session?_put_of_ne {j : SessionId} (h : j ≠ i) (r : Registry) (s : Session) :
    (r.put i s).session? j = r.session? j := by
  simp [session?, put, List.getElem?_set_ne (Ne.symm h)]

/-- To put a session back changes nothing. -/
theorem put_of_session? (h : r.session? i = some s) : r.put i s = r := by
  obtain ⟨hi, rfl⟩ := List.getElem?_eq_some_iff.1 h
  simp only [put, List.set_getElem_self hi]

/-- An instance that is not registered gets a new session. -/
theorem attach_of_get?_eq_none {id : InstanceId} (h : r.get? id = none) (e : Endpoint) :
    r.attach id e = (r.sessions.length,
      ⟨r.sessions ++ [Session.new id e], r.registered.set id r.sessions.length⟩) := by
  simp only [get?] at h
  simp [attach, h]

end VmMonitor.Registry
