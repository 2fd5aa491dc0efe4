import VmMonitor.Proofs.Peer.Alike
import VmMonitor.Session.Registry

/-!
# The traffic of a peer

`Transport.logged t` is the peer `t` with a record of all that is sent to it and of its answers,
kept in front of its own state. It answers as `t` does, whatever is on the record, so a statement
about `t.logged` for every `t` is one about every peer and everything that is sent to it.

## What is proved

* `Sends P x y` — from `x` to `y` the record only grew, and by entries with `P`. Every operation of
  a session has such a bound.
* `Transport.source_logged_alike` — what is read from a recorded connection is what is read from the
  connection itself, and only requests to that connection are recorded.
-/

namespace VmMonitor

/-- Something that was sent, with its answer. -/
inductive Traffic where
  | connect (endpoint : Endpoint) (result : Except ConnectionError ConnectionId)
  | isAlive (c : ConnectionId) (alive : Bool)
  | close (c : ConnectionId)
  | ask (c : ConnectionId) (r : Request) (answer : Except ConnectionError r.Answer)

namespace Traffic

/-- An attempt to open a connection. -/
def isConnect : Traffic → Bool
  | connect _ _ => true
  | _ => false

/-- The end of a connection. -/
def isClose (c : ConnectionId) : Traffic → Bool
  | close c' => c' = c
  | _ => false

/-- A request. -/
def isAsk (c : ConnectionId) : Traffic → Bool
  | ask c' _ _ => c' = c
  | _ => false

/-- A liveness check or a request. -/
def isUse (c : ConnectionId) : Traffic → Bool
  | isAlive c' _ => c' = c
  | ask c' _ _ => c' = c
  | _ => false

/-- The endpoint of an attempt to open a connection. -/
def endpoint? : Traffic → Option Endpoint
  | connect e _ => some e
  | _ => none

section

variable {c : ConnectionId} {x : Traffic}

theorem isUse_of_isAsk (h : x.isAsk c) : x.isUse c := by
  cases x <;> simp_all [isAsk, isUse]

theorem isConnect_of_isUse (h : x.isUse c) : x.isConnect = false := by
  cases x <;> simp_all [isUse, isConnect]

theorem isClose_of_isUse (h : x.isUse c) (c' : ConnectionId) : x.isClose c' = false := by
  cases x <;> simp_all [isUse, isClose]

theorem endpoint?_of_isConnect (h : x.isConnect = false) : x.endpoint? = none := by
  cases x <;> simp_all [isConnect, endpoint?]

end

end Traffic

/-- The attempts to open a connection that were made. -/
def opens (log : List Traffic) : List Endpoint := log.filterMap Traffic.endpoint?

theorem opens_append (l l' : List Traffic) : opens (l ++ l') = opens l ++ opens l' :=
  List.filterMap_append

theorem opens_connect (e : Endpoint) (result : Except ConnectionError ConnectionId)
    (l : List Traffic) : opens (.connect e result :: l) = e :: opens l := rfl

theorem opens_eq_nil {l : List Traffic} (h : ∀ x ∈ l, x.isConnect = false) : opens l = [] :=
  List.filterMap_eq_nil_iff.2 fun x hx => Traffic.endpoint?_of_isConnect (h x hx)

/-- A peer whose traffic is on record. -/
abbrev Logged (ω : Type) := List Traffic × ω

variable {ω : Type} (t : Transport ω)

/-- The peer with a record of its traffic. -/
def Transport.logged : Transport (Logged ω) where
  connect e := fun (log, w) =>
    let (result, w) := t.connect e w
    (result, (log ++ [.connect e result], w))
  isAlive c := fun (log, w) =>
    let (alive, w) := t.isAlive c w
    (alive, (log ++ [.isAlive c alive], w))
  close c := fun (log, w) => (log ++ [.close c], t.close c w)
  ask c r := fun (log, w) =>
    let (answer, w) := (t.ask c r).run w
    (answer, (log ++ [.ask c r answer], w))

namespace Transport

variable {t} {x y : Logged ω}

theorem logged_connect {e : Endpoint} {result : Except ConnectionError ConnectionId}
    (h : t.logged.connect e x = (result, y)) : y.1 = x.1 ++ [.connect e result] := by
  obtain ⟨rfl, rfl⟩ := Prod.ext_iff.1 h
  rfl

theorem logged_isAlive {c : ConnectionId} {alive : Bool} (h : t.logged.isAlive c x = (alive, y)) :
    y.1 = x.1 ++ [.isAlive c alive] := by
  obtain ⟨rfl, rfl⟩ := Prod.ext_iff.1 h
  rfl

theorem logged_ask (c : ConnectionId) (r : Request) (x : Logged ω) :
    (((t.logged.source c).ask r).run x).2.1 =
      x.1 ++ [.ask c r (((t.logged.source c).ask r).run x).1] := rfl

@[simp] theorem logged_close (c : ConnectionId) (x : Logged ω) :
    (t.logged.close c x).1 = x.1 ++ [.close c] := rfl

end Transport

/-- The record grew, by entries with `P` only. -/
def Sends (P : Traffic → Prop) (x y : Logged ω) : Prop := ∃ l, y.1 = x.1 ++ l ∧ ∀ e ∈ l, P e

namespace Sends

variable {P : Traffic → Prop} {x y z : Logged ω}

theorem refl (x : Logged ω) : Sends P x x := ⟨[], by simp, by simp⟩

theorem trans (hxy : Sends P x y) (hyz : Sends P y z) : Sends P x z := by
  obtain ⟨l, hl, hP⟩ := hxy
  obtain ⟨l', hl', hP'⟩ := hyz
  refine ⟨l ++ l', by rw [hl', hl, List.append_assoc], fun e he => ?_⟩
  rcases List.mem_append.1 he with he | he
  · exact hP e he
  · exact hP' e he

theorem one {e : Traffic} (he : P e) {w w' : ω} {log : List Traffic} :
    Sends P (log, w) (log ++ [e], w') := ⟨[e], rfl, by simpa using he⟩

end Sends

/-! ### A peer for trials -/

/-- A peer that numbers its connections, lives, has whatever object it is asked about, and answers
nothing else. -/
def Transport.mute : Transport Nat where
  connect _ := fun n => (.ok n, n + 1)
  isAlive _ := fun n => (true, n)
  close _ := fun n => n
  ask _
    | .query o => pure [o]
    | _ => throw (.io "no answer")

/-! ### Reading a recorded connection -/

/-- The peer behind a record that grew from `x` by entries with `P`. -/
def Behind (P : Traffic → Prop) (x y : Logged ω) (w : ω) : Prop := y.2 = w ∧ Sends P x y

/-- A recorded connection answers as the connection itself, and records the requests to it. -/
theorem Transport.source_logged_alike (c : ConnectionId) (x : Logged ω) :
    (t.logged.source c).Alike (Behind (fun e => e.isAsk c) x) (t.source c) := by
  rintro r ⟨log, w⟩ w' ⟨rfl, hs⟩
  exact ⟨rfl, rfl, hs.trans (.one (by simp [Traffic.isAsk]))⟩

end VmMonitor
