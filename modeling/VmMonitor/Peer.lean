import VmMonitor.AttributeValue
import VmMonitor.Endpoint

/-!
# Peers

The other side of a connection, as far as this side can tell: a state that nobody sees, and an
answer to every request, which may change that state. Nothing is assumed of the answers; they may
differ from call to call.

* `Source` answers requests for attributes, names and operations;
* `Transport` opens connections, each of which is a source that can be asked for its liveness and
  be closed.
-/

namespace VmMonitor

/-- A request to the management objects behind a connection. -/
inductive Request
  /-- One attribute of an object. -/
  | single (object : ObjectName) (name : String)
  /-- Several attributes of an object at once; those that cannot be read may be left out. -/
  | batch (object : ObjectName) (names : List String)
  /-- The registered names that a pattern stands for. -/
  | query (pattern : ObjectName)
  /-- An operation of an object. -/
  | invoke (object : ObjectName) (operation : String) (params : List AttributeValue)
  deriving DecidableEq

/-- Values under the names of attributes. -/
abbrev AttributeMap := Table String AttributeValue

/-- What a request is answered with. -/
@[reducible] def Request.Answer : Request → Type
  | .single _ _ => AttributeValue
  | .batch _ _ => AttributeMap
  | .query _ => List ObjectName
  | .invoke _ _ _ => AttributeValue

/-- A step that talks to something of state `σ`: it may fail, and the state is left changed in
either case. -/
abbrev Exchange (σ α : Type) := ExceptT ConnectionError (StateM σ) α

/-- The step beside a state of someone else's, which it leaves alone. -/
def Exchange.beside {σ α : Type} (τ : Type) (x : Exchange σ α) : Exchange (τ × σ) α := fun (t, s) =>
  let (result, s) := x.run s
  (result, (t, s))

/-- What answers requests. -/
structure Source (σ : Type) where
  ask : (r : Request) → Exchange σ r.Answer

/-- A connection is known by a number. -/
abbrev ConnectionId := Nat

/-- What opens connections and answers for them. -/
structure Transport (ω : Type) where
  connect : Endpoint → ω → Except ConnectionError ConnectionId × ω
  isAlive : ConnectionId → ω → Bool × ω
  close : ConnectionId → ω → ω
  ask : ConnectionId → (r : Request) → Exchange ω r.Answer

/-- One connection as a source. -/
def Transport.source {ω : Type} (t : Transport ω) (c : ConnectionId) : Source ω := ⟨t.ask c⟩

end VmMonitor
