import VmMonitor.Session

/-!
# The registry of sessions

All sessions that were ever created are kept under the number of their creation, because whoever got
a session goes on using it after it was taken off the registry. Registered is at most one session
per instance.
-/

namespace VmMonitor

/-- A session is known by the number of its creation. -/
abbrev SessionId := Nat

/-- All sessions, and the registered one of each instance. -/
structure Registry where
  sessions : List Session := []
  registered : Register InstanceId SessionId := []

namespace Registry

/-- The registered session of an instance; a new one if there is none. -/
def attach (id : InstanceId) (endpoint : Endpoint) (r : Registry) : SessionId × Registry :=
  match r.registered.get? id with
  | some i => (i, r)
  | none =>
    let i := r.sessions.length
    (i, ⟨r.sessions ++ [Session.new id endpoint], r.registered.set id i⟩)

/-- The registered session of an instance. -/
def get? (id : InstanceId) (r : Registry) : Option SessionId := r.registered.get? id

/-- A session of any age. -/
def session? (i : SessionId) (r : Registry) : Option Session := r.sessions[i]?

/-- The registry with another state of a session. -/
def put (i : SessionId) (s : Session) (r : Registry) : Registry :=
  { r with sessions := r.sessions.set i s }

/-- How many instances have a registered session. -/
def size (r : Registry) : Nat := r.registered.length

variable {ω : Type} (t : Transport ω)

/-- Closes a session of any age. -/
def close (i : SessionId) (r : Registry) (w : ω) : Registry × ω :=
  match r.session? i with
  | some s =>
    let (s, w) := s.close t w
    (r.put i s, w)
  | none => (r, w)

/-- Takes the session of an instance off the registry and closes it. -/
def teardown (id : InstanceId) (r : Registry) (w : ω) : Bool × Registry × ω :=
  match r.registered.get? id with
  | some i => (true, { r with registered := r.registered.erase id }.close t i w)
  | none => (false, r, w)

/-- Closes all registered sessions and forgets them. -/
def closeAll (r : Registry) (w : ω) : Registry × ω :=
  (r.registered.map (·.2)).foldl (fun (r, w) i => r.close t i w) ({ r with registered := [] }, w)

end Registry

end VmMonitor
