import VmMonitor.Peer

/-!
# A scripted peer

A peer whose answers are written down beforehand, and which keeps a log of what it was asked. It
stands in for a process where the traffic on a connection is of interest.
-/

namespace VmMonitor

/-- What a peer was asked for. -/
inductive Call
  | connect (endpoint : Endpoint)
  | isAlive
  | close
  | ask (request : Request)
  deriving DecidableEq

/-- The name of an operation, with its first parameter if that is a number. -/
def operationKey (operation : String) : List AttributeValue → String
  | .long n :: _ => operation ++ ":" ++ toString n
  | _ => operation

/-- A line of the log. -/
def Call.text : Call → String
  | connect e => "open " ++ e.connectionName
  | isAlive => "alive"
  | close => "close"
  | ask (.single o name) => "get " ++ o.text ++ " " ++ name
  | ask (.batch o names) => "batch " ++ o.text ++ " " ++ ",".intercalate names
  | ask (.query o) => "query " ++ o.text
  | ask (.invoke o operation params) => "invoke " ++ o.text ++ " " ++ operationKey operation params

/-- The answers of a peer and the log of its calls. -/
structure Script where
  /-- Why no connection can be opened. -/
  refusal : Option ConnectionError := none
  alive : Bool := true
  /-- Why every request fails. -/
  failure : Option ConnectionError := none
  registered : List ObjectName := []
  /-- Attributes that cannot be read, whatever their object. -/
  broken : List String := []
  values : List (ObjectName × List (String × AttributeValue)) := []
  /-- The results of operations by their keys. -/
  results : List (String × AttributeValue) := []
  log : List Call := []

namespace Script

def note (c : Call) (s : Script) : Script := { s with log := s.log ++ [c] }

/-- The value of an attribute. -/
def value (s : Script) (object : ObjectName) (name : String) :
    Except ConnectionError AttributeValue :=
  if s.broken.contains name then .error (.unreadable object name "broken")
  else match (s.values.lookup object).bind (List.lookup name) with
    | some v => .ok v
    | none => .error (.unreadable object name "absent")

/-- The answer to a request, unless all requests fail. -/
def answer (s : Script) : (r : Request) → Except ConnectionError r.Answer
  | .single o name => s.value o name
  | .batch o names =>
    .ok (Table.ofList (names.filterMap fun n => (s.value o n).toOption.map fun v => (n, v)))
  | .query o => .ok (s.registered.filter o.isMatch)
  | .invoke o operation params =>
    match s.results.lookup (operationKey operation params) with
    | some v => .ok v
    | none => .error (.unsupported o operation)

def ask (r : Request) : Exchange Script r.Answer := fun s =>
  match s.failure with
  | some e => (.error e, s.note (.ask r))
  | none => (s.answer r, s.note (.ask r))

/-- The peer on the other side of every connection. -/
def transport : Transport Script where
  connect e s :=
    match s.refusal with
    | some error => (.error error, s.note (.connect e))
    | none => (.ok 0, s.note (.connect e))
  isAlive _ s := (s.alive, s.note .isAlive)
  close _ s := s.note .close
  ask _ r := ask r

/-- The peer as a source of its own. -/
def source : Source Script := ⟨ask⟩

end Script

end VmMonitor
