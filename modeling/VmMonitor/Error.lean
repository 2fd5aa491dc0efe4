import VmMonitor.ObjectName

/-!
# What goes wrong

A connection error is the cause of one failed request or attempt to open a connection. A monitor
error says what the failure means for the instance: it is recorded and the other instances go on,
unless the listing of instances itself failed.
-/

namespace VmMonitor

/-- An instance is known by its process id. -/
abbrev InstanceId := Nat

/-- Why a request, or the opening of a connection, failed. -/
inductive ConnectionError
  | refused (reason : String)
  | permissionDenied (reason : String)
  | attachNotSupported (reason : String)
  | notManageable (reason : String)
  | io (reason : String)
  | notRegistered (object : ObjectName)
  | unreadable (object : ObjectName) (name reason : String)
  | unsupported (object : ObjectName) (operation : String)
  | typeMismatch (what : String)
  | closed
  deriving DecidableEq

namespace ConnectionError

/-- Whether the other side declined the connection, as opposed to a failure on the way. -/
def isRefusal : ConnectionError → Bool
  | refused _ | permissionDenied _ | attachNotSupported _ => true
  | _ => false

/-- The wording of an error. -/
def message : ConnectionError → String
  | refused reason => "connection refused: " ++ reason
  | permissionDenied reason => "permission denied: " ++ reason
  | attachNotSupported reason => "attach not supported: " ++ reason
  | notManageable reason => "instance is not manageable: " ++ reason
  | io reason => "I/O error: " ++ reason
  | notRegistered object => "management object not registered: " ++ object.text
  | unreadable object name reason =>
    "attribute " ++ name ++ " of " ++ object.text ++ " could not be read: " ++ reason
  | unsupported object operation =>
    "operation " ++ operation ++ " not supported by " ++ object.text
  | typeMismatch what => "unexpected value type for " ++ what
  | closed => "connection closed"

end ConnectionError

/-- What a failure means for an instance, or for the whole listing. -/
inductive MonitorError
  | attachFailure (id : InstanceId) (cause : ConnectionError)
  | connectionRefused (id : InstanceId) (cause : ConnectionError)
  | transientUpdateFailure (id : InstanceId) (count : Nat) (cause : ConnectionError)
  | permanentDetach (id : InstanceId)
  | partialAttributeFailure (object : ObjectName) (name : String)
  | discovery (reason : String)
  deriving DecidableEq

namespace MonitorError

/-- Whether monitoring stops: only where instances can no longer be listed. -/
def isFatal : MonitorError → Bool
  | discovery _ => true
  | _ => false

/-- The connection error behind an error, if there is one. -/
def cause? : MonitorError → Option ConnectionError
  | attachFailure _ cause => some cause
  | connectionRefused _ cause => some cause
  | transientUpdateFailure _ _ cause => some cause
  | _ => none

/-- The wording of an error. -/
def message : MonitorError → String
  | attachFailure id cause =>
    "could not attach to instance " ++ toString id ++ ": " ++ cause.message
  | connectionRefused id cause =>
    "connection to instance " ++ toString id ++ " refused: " ++ cause.message
  | transientUpdateFailure id count cause =>
    "could not fetch metrics of instance " ++ toString id ++ " (" ++ toString count
      ++ " consecutive failures): " ++ cause.message
  | permanentDetach id => "instance " ++ toString id ++ " detached"
  | partialAttributeFailure object name =>
    "attribute " ++ name ++ " of " ++ object.text ++ " could not be read"
  | discovery reason => "discovery provider failed: " ++ reason

end MonitorError

/-- Reads an object name, or says what is wrong with it. -/
def ObjectName.parse (s : String) : Except ConnectionError ObjectName :=
  match ObjectName.ofString? s with
  | some o => .ok o
  | none => .error (.typeMismatch ("object name '" ++ s ++ "'"))

end VmMonitor
