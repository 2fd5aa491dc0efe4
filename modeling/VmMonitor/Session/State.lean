/-!
# States of a session

A session starts unconnected, opens its connection once, and ends in one of three terminal states.
Update failures are counted by the caller; a session gives up when there were more than ten.
-/

namespace VmMonitor

/-- Where a session stands. -/
inductive SessionState
  | init
  | connecting
  | attached
  /-- Attached, but the last update failed. -/
  | attachedUpdateError
  | connectionRefused
  | errorDuringAttach
  | detached
  deriving DecidableEq, Repr, Inhabited

/-- What happens to a session. -/
inductive SessionEvent
  | connectStarted
  | connected
  | livenessLost
  | refused
  | attachFailed
  | updateSucceeded
  /-- An update failed, the `count`-th one. -/
  | updateFailed (count : Nat)
  deriving DecidableEq, Repr

/-- The most failed updates that a session survives. -/
def maxUpdateErrors : Nat := 10

namespace SessionState

/-- A session that is over. -/
def isTerminal : SessionState → Bool
  | connectionRefused | errorDuringAttach | detached => true
  | _ => false

/-- A session with a connection. -/
def isAttached : SessionState → Bool
  | attached | attachedUpdateError => true
  | _ => false

/-- The state after an event. Terminal states stay, and an event that makes no sense in a state
changes nothing. -/
def next (s : SessionState) (e : SessionEvent) : SessionState :=
  if s.isTerminal then s
  else match s, e with
    | _, .livenessLost => detached
    | init, .connectStarted => connecting
    | init, .attachFailed => errorDuringAttach
    | init, .refused => connectionRefused
    | connecting, .connected => attached
    | connecting, .refused => connectionRefused
    | connecting, .attachFailed => errorDuringAttach
    | attached, .updateSucceeded => attached
    | attachedUpdateError, .updateSucceeded => attached
    | attached, .updateFailed count =>
      if maxUpdateErrors < count then detached else attachedUpdateError
    | attachedUpdateError, .updateFailed count =>
      if maxUpdateErrors < count then detached else attachedUpdateError
    | s, _ => s

/-- The name of a state. -/
def name : SessionState → String
  | init => "INIT"
  | connecting => "CONNECTING"
  | attached => "ATTACHED"
  | attachedUpdateError => "ATTACHED_UPDATE_ERROR"
  | connectionRefused => "CONNECTION_REFUSED"
  | errorDuringAttach => "ERROR_DURING_ATTACH"
  | detached => "DETACHED"

/-- All states. -/
def all : List SessionState :=
  [init, connecting, attached, attachedUpdateError, connectionRefused, errorDuringAttach, detached]

def ofName? (s : String) : Option SessionState := all.find? fun x => x.name = s

/-- What a console shows in place of readings, unless the session is attached and well. -/
def marker? : SessionState → Option String
  | attached => none
  | init | connecting => some "[Connecting ...]"
  | attachedUpdateError => some "[ERROR: Could not fetch telemetries (Process DEAD?)]"
  | errorDuringAttach => some "[ERROR: Could not attach to VM]"
  | connectionRefused => some "[ERROR: Connection refused/access denied]"
  | detached => some "[ERROR: Detached]"

end SessionState

end VmMonitor
