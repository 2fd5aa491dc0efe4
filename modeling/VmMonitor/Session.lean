import VmMonitor.Peer.Cache
import VmMonitor.Peer.Telemetry
import VmMonitor.Session.State

/-!
# Sessions

A session belongs to one instance and opens at most one connection in its life. It holds the
connection from the moment it is attached to the moment it enters a terminal state, and closes it
then.
-/

namespace VmMonitor

/-- An open connection with the cache around it. -/
structure Connection where
  id : ConnectionId
  cache : Cache := {}

/-- The connection to one instance over its life. -/
structure Session where
  id : InstanceId
  endpoint : Endpoint
  state : SessionState := .init
  connection : Option Connection := none
  /-- Whether deadlocks over locks of any kind can be asked for. -/
  lockUsage : Bool := false
  /-- Why the attempt to attach failed, if it failed by itself and was not declined. -/
  failure : Option ConnectionError := none

namespace Session

/-- A session that has not connected yet. -/
def new (id : InstanceId) (endpoint : Endpoint) : Session := { id, endpoint }

variable {ω : Type} (t : Transport ω)

/-- Gives the connection up, if there is one, and closes it. -/
def disconnect (s : Session) (w : ω) : Session × ω :=
  match s.connection with
  | some c => ({ s with connection := none }, t.close c.id w)
  | none => (s, w)

/-- Moves on by an event; whoever enters a terminal state loses the connection. -/
def apply (e : SessionEvent) (s : Session) (w : ω) : Session × ω :=
  let next := s.state.next e
  if next = s.state then (s, w)
  else if next.isTerminal then disconnect t { s with state := next } w
  else ({ s with state := next }, w)

/-- An instance that cannot be attached to is given up at once. -/
def markNotAttachable (s : Session) (w : ω) : Session × ω := s.apply t .attachFailed w

/-- The result that the state stands for, for a session that was connected before. -/
def outcome (s : Session) : Except MonitorError Unit :=
  match s.state with
  | .detached => .error (.permanentDetach s.id)
  | .connectionRefused =>
    .error (.connectionRefused s.id (.refused s.endpoint.connectionName))
  | .errorDuringAttach =>
    .error (.attachFailure s.id (.notManageable s.endpoint.connectionName))
  | _ => .ok ()

/-- Ends an attempt to attach by the error it met. -/
def attachFailed (e : ConnectionError) (s : Session) (w : ω) :
    Except MonitorError Unit × Session × ω :=
  if e.isRefusal then
    (.error (.connectionRefused s.id e), s.apply t .refused w)
  else
    (.error (.attachFailure s.id e), { s with failure := some e }.apply t .attachFailed w)

/-- Whether a fresh connection is of use, and whether it knows about locks of any kind: its
threading object has to be registered, while a failure to read the flag only means no. -/
def probe (src : Source ω) : Exchange ω Bool := do
  if ← src.isRegistered .threading then
    tryCatch src.lockUsageSupported fun _ => return false
  else
    throw (.notManageable (ObjectName.threading.text ++ " is not registered"))

/-- Connects a session that has not tried yet; any other one tells how its attempt ended. -/
def connect (s : Session) (w : ω) : Except MonitorError Unit × Session × ω :=
  if s.state ≠ .init then (s.outcome, s, w)
  else
    let (s, w) := s.apply t .connectStarted w
    match t.connect s.endpoint w with
    | (.error e, w) => s.attachFailed t e w
    | (.ok c, w) =>
      match t.isAlive c w with
      | (false, w) => (.error (.permanentDetach s.id), s.apply t .livenessLost (t.close c w))
      | (true, w) =>
        match (probe (t.source c)).run w with
        | (.error e, w) => s.attachFailed t e (t.close c w)
        | (.ok lockUsage, w) =>
          (.ok (), { s with lockUsage, connection := some { id := c } }.apply t .connected w)

/-- Asks whether the other side still lives. Without a connection, or without an answer, the
session is over. -/
def isLive (s : Session) (w : ω) : Bool × Session × ω :=
  let (alive, w) := match s.connection with
    | some c => t.isAlive c.id w
    | none => (false, w)
  if alive then (true, s, w) else (false, s.apply t .livenessLost w)

/-- Forgets the cached values. -/
def flush (s : Session) : Session :=
  { s with connection := s.connection.map fun c => { c with cache := c.cache.flush } }

/-- Ends the session. -/
def close (s : Session) (w : ω) : Session × ω :=
  let (s, w) := s.apply t .livenessLost w
  s.disconnect t w

/-- Runs readings on the cached connection; without a connection there is nothing to read from. -/
def read {α : Type} (readings : Source (Cache × ω) → StateM (Cache × ω) α) (s : Session) (w : ω) :
    Option α × Session × ω :=
  match s.connection with
  | none => (none, s, w)
  | some c =>
    let (result, (cache, w)) := (readings (Cache.source (t.source c.id))).run (c.cache, w)
    (some result, { s with connection := some { c with cache } }, w)

end Session

end VmMonitor
