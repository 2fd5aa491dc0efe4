import Mathlib.Data.List.Induction
import VmMonitor.Proofs.Session.Lifecycle
import VmMonitor.Proofs.Session.Registry

/-!
# One session per identity

An instance has one session after another: `attach` creates one, a teardown ends it, the next
`attach` creates the next. Whoever was given one of them keeps its number and goes on operating on
it, registered or not, beside the others. So what is said here is about all sessions that were ever
created, after any calls on the registry and any operations on any of its sessions.

What carries it is that a call creates a session only for an identity that has none, and takes one
off the registry only as it ends it: `Registry.Orderly`, whoever is not registered is over, holds
after every call, and a session that is over is left as it is by every operation.

## What is proved

* `Registry.Orderly.run` — one call keeps the order of the registry.
* `Registry.one_session_per_identity` — which attaches answer the same session, whose endpoint a
  session has, that only a registered session is not over, and that a session taken off the registry
  stays as its teardown left it.
-/

namespace VmMonitor

variable {ω : Type} (t : Transport ω)

/-! ### What operations leave of a session -/

namespace Session

/-- The session has ended and its connection is given up. -/
structure Over (s : Session) : Prop where
  isTerminal : s.state.isTerminal
  connection : s.connection = none

/-- What a session was created with. -/
def origin (s : Session) : InstanceId × Endpoint := (s.id, s.endpoint)

/-- What operations make of a session: it keeps its origin, and if it was over it is as it was. -/
structure Becomes (s s' : Session) : Prop where
  origin : s'.origin = s.origin
  ended : s.Over → s' = s

namespace Becomes

variable {s s' s'' : Session}

theorem refl (s : Session) : s.Becomes s := ⟨rfl, fun _ => rfl⟩

theorem trans (h : s.Becomes s') (h' : s'.Becomes s'') : s.Becomes s'' where
  origin := h'.origin.trans h.origin
  ended hs := by
    obtain rfl := h.ended hs
    exact h'.ended hs

theorem id (h : s.Becomes s') : s'.id = s.id := congrArg Prod.fst h.origin

theorem endpoint (h : s.Becomes s') : s'.endpoint = s.endpoint := congrArg Prod.snd h.origin

theorem keepsOver (h : s.Becomes s') (hs : s.Over) : s'.Over := by
  rwa [h.ended hs]

end Becomes

theorem disconnect_origin (s : Session) (w : ω) : (s.disconnect t w).1.origin = s.origin := by
  simp only [disconnect]
  split <;> rfl

theorem apply_origin (s : Session) (e : SessionEvent) (w : ω) :
    (s.apply t e w).1.origin = s.origin := by
  simp only [apply]
  split_ifs
  · rfl
  · exact disconnect_origin t _ w
  · rfl

theorem attachFailed_origin (s : Session) (e : ConnectionError) (w : ω) :
    (s.attachFailed t e w).2.1.origin = s.origin := by
  simp only [attachFailed]
  split_ifs
  · exact apply_origin t s .refused w
  · exact apply_origin t { s with failure := some e } .attachFailed w

theorem connect_origin (s : Session) (w : ω) : (s.connect t w).2.1.origin = s.origin := by
  have hstart := apply_origin t s .connectStarted w
  simp only [connect]
  split_ifs
  · rfl
  split
  · exact (attachFailed_origin t _ _ _).trans hstart
  split
  · exact (apply_origin t _ _ _).trans hstart
  split
  · exact (attachFailed_origin t _ _ _).trans hstart
  · exact (apply_origin t _ _ _).trans hstart

theorem call_origin (s : Session) (call : SessionCall) (w : ω) :
    (call.run t s w).1.origin = s.origin := by
  cases call with
  | connect => exact connect_origin t s w
  | isLive =>
    simp only [SessionCall.run]
    rcases s.isLive_cases t w with ⟨_, _, -, -, hlive⟩ | ⟨_, w', -, -, hlive⟩ | ⟨-, hlive⟩
    · rw [hlive]
    · rw [hlive]
      exact apply_origin t s .livenessLost w'
    · rw [hlive]
      exact apply_origin t s .livenessLost w
  | flush => rfl
  | markNotAttachable => exact apply_origin t s _ w
  | close => exact (disconnect_origin t _ _).trans (apply_origin t s _ w)
  | updateSucceeded => exact apply_origin t s _ w
  | updateFailed count => exact apply_origin t s _ w

/-- Nothing happens to a session that is over, and nothing is sent for it. -/
theorem Over.call {s : Session} (h : s.Over) (call : SessionCall) (w : ω) :
    call.run t s w = (s, w) := by
  have happly (e : SessionEvent) : s.apply t e w = (s, w) := apply_of_isTerminal t h.isTerminal e w
  cases call with
  | connect =>
    have hne : s.state ≠ .init := by
      intro heq
      simpa [heq, SessionState.isTerminal] using h.isTerminal
    simp [SessionCall.run, connect_of_ne_init t hne]
  | isLive => simp [SessionCall.run, isLive_of_none h.connection, happly]
  | flush => simp [SessionCall.run, flush_of_none h.connection]
  | markNotAttachable => exact happly .attachFailed
  | close => simp [SessionCall.run, close, happly, disconnect_of_none t h.connection]
  | updateSucceeded => exact happly .updateSucceeded
  | updateFailed count => exact happly (.updateFailed count)

theorem becomes_call (s : Session) (call : SessionCall) (w : ω) : s.Becomes (call.run t s w).1 where
  origin := call_origin t s call w
  ended h := by rw [h.call t call w]

/-- A session that was closed is over, whatever it was. -/
theorem over_close (s : Session) (w : ω) : (s.close t w).1.Over := by
  have hover := isTerminal_apply_livenessLost t s w
  simp only [close, disconnect]
  split
  · exact ⟨hover, rfl⟩
  next hc => exact ⟨hover, hc⟩

end Session

/-! ### Calls on the registry -/

/-- A call on the registry, or an operation on one of the sessions it has given out. -/
inductive RegistryCall where
  | attach (id : InstanceId) (endpoint : Endpoint)
  | get (id : InstanceId)
  | teardown (id : InstanceId)
  | closeAll
  | session (i : SessionId) (call : SessionCall)

namespace RegistryCall

/-- A call that takes the session of an identity off the registry. -/
def TakesOff (id : InstanceId) (c : RegistryCall) : Prop := c = teardown id ∨ c = closeAll

/-- What a call leaves of the registry and the peers. -/
def run (r : Registry) (w : ω) : RegistryCall → Registry × ω
  | attach id endpoint => ((r.attach id endpoint).2, w)
  | get _ => (r, w)
  | teardown id => (r.teardown t id w).2
  | closeAll => r.closeAll t w
  | session i call =>
    match r.session? i with
    | some s => (r.put i (call.run t s w).1, (call.run t s w).2)
    | none => (r, w)

end RegistryCall

namespace Registry

/-- The registry after some calls. -/
def after : List RegistryCall → Registry → ω → Registry × ω
  | [], r, w => (r, w)
  | c :: calls, r, w => after calls (c.run t r w).1 (c.run t r w).2

theorem after_append (calls calls' : List RegistryCall) (r : Registry) (w : ω) :
    after t (calls ++ calls') r w = after t calls' (after t calls r w).1 (after t calls r w).2 := by
  induction calls generalizing r w with
  | nil => rfl
  | cons c calls ih => exact ih _ _

/-- Each session is one that the registry had, as operations left it. -/
structure Kept (r r' : Registry) : Prop where
  length : r'.sessions.length = r.sessions.length
  session : ∀ {i s}, r.session? i = some s → ∃ s', r'.session? i = some s' ∧ s.Becomes s'

theorem lt_of_session? {r : Registry} {i : SessionId} {s : Session} (h : r.session? i = some s) :
    i < r.sessions.length :=
  (List.getElem?_eq_some_iff.1 h).1

theorem exists_session? {r : Registry} {i : SessionId} (h : i < r.sessions.length) :
    ∃ s, r.session? i = some s :=
  ⟨_, List.getElem?_eq_getElem h⟩

/-- Behind the sessions that there are comes a new one, and no other. -/
theorem old_or_last {r : Registry} {i : SessionId} {s s' : Session}
    (h : (r.sessions ++ [s])[i]? = some s') :
    r.session? i = some s' ∨ i = r.sessions.length ∧ s = s' := by
  rcases Nat.lt_trichotomy i r.sessions.length with hi | rfl | hi
  · rw [List.getElem?_append_left hi] at h
    exact .inl h
  · exact .inr ⟨rfl, by simpa using h⟩
  · have hlen : (r.sessions ++ [s]).length ≤ i := by
      rw [List.length_append, List.length_singleton]
      omega
    rw [List.getElem?_eq_none hlen] at h
    cases h

namespace Kept

variable {r r' r'' : Registry} {i : SessionId} {s s' : Session}

theorem of_sessions (h : r'.sessions = r.sessions) : r.Kept r' where
  length := congrArg List.length h
  session {i s} hs := by
    refine ⟨s, ?_, .refl s⟩
    rw [← hs, session?, h, session?]

theorem refl (r : Registry) : r.Kept r := of_sessions rfl

theorem trans (h : r.Kept r') (h' : r'.Kept r'') : r.Kept r'' where
  length := h'.length.trans h.length
  session hs := by
    obtain ⟨s', hs', hbecomes⟩ := h.session hs
    obtain ⟨s'', hs'', hbecomes'⟩ := h'.session hs'
    exact ⟨s'', hs'', hbecomes.trans hbecomes'⟩

theorem put (hs : r.session? i = some s) (h : s.Becomes s') : r.Kept (r.put i s') where
  length := by simp [Registry.put]
  session {j s₁} hj := by
    by_cases hij : j = i
    · subst hij
      obtain rfl : s = s₁ := Option.some.inj (hs.symm.trans hj)
      exact ⟨s', session?_put_self hs, h⟩
    · exact ⟨s₁, (session?_put_of_ne hij r s').trans hj, .refl s₁⟩

/-- No session comes from nowhere. -/
theorem exists_earlier (h : r.Kept r') (hs' : r'.session? i = some s') :
    ∃ s, r.session? i = some s ∧ s.Becomes s' := by
  obtain ⟨s, hs⟩ := exists_session? (h.length ▸ lt_of_session? hs')
  obtain ⟨s₁, hs₁, hbecomes⟩ := h.session hs
  obtain rfl : s₁ = s' := Option.some.inj (hs₁.symm.trans hs')
  exact ⟨s, hs, hbecomes⟩

end Kept

/-! ### Closing -/

section close

variable (r : Registry) (w : ω)

theorem close_registered (i : SessionId) : (r.close t i w).1.registered = r.registered := by
  simp only [close]
  split <;> rfl

theorem kept_close (i : SessionId) : r.Kept (r.close t i w).1 := by
  simp only [close]
  split
  next s hs => exact .put hs (Session.becomes_call t s .close w)
  next => exact .refl r

theorem over_close {i : SessionId} {s' : Session} (h : (r.close t i w).1.session? i = some s') :
    s'.Over := by
  simp only [close] at h
  split at h
  next s hs =>
    obtain rfl : (s.close t w).1 = s' := Option.some.inj ((session?_put_self hs).symm.trans h)
    exact Session.over_close t s w
  next hnone => simp [hnone] at h

/-- Closes sessions one after another. -/
def closeEach (is : List SessionId) (r : Registry) (w : ω) : Registry × ω :=
  is.foldl (fun (r, w) i => r.close t i w) (r, w)

theorem closeEach_cons (i : SessionId) (is : List SessionId) :
    closeEach t (i :: is) r w = closeEach t is (r.close t i w).1 (r.close t i w).2 := rfl

theorem closeAll_eq : r.closeAll t w =
    closeEach t (r.registered.map (·.2)) { r with registered := [] } w := rfl

theorem closeEach_registered (is : List SessionId) :
    (closeEach t is r w).1.registered = r.registered := by
  induction is generalizing r w with
  | nil => rfl
  | cons i is ih => rw [closeEach_cons, ih, close_registered]

theorem kept_closeEach (is : List SessionId) : r.Kept (closeEach t is r w).1 := by
  induction is generalizing r w with
  | nil => exact .refl r
  | cons i is ih => exact (kept_close t r w i).trans (ih _ _)

theorem over_closeEach {is : List SessionId} {i : SessionId} {s' : Session} (hi : i ∈ is)
    (h : (closeEach t is r w).1.session? i = some s') : s'.Over := by
  induction is generalizing r w with
  | nil => cases hi
  | cons j is ih =>
    rw [closeEach_cons] at h
    rcases List.mem_cons.1 hi with rfl | hi
    · obtain ⟨s, hs, hbecomes⟩ := (kept_closeEach t _ _ is).exists_earlier h
      exact hbecomes.keepsOver (over_close t r w hs)
    · exact ih _ _ hi h

end close

/-! ### Who is registered -/

section

variable {r r' : Registry} {id : InstanceId} {i : SessionId} {c : RegistryCall} {w : ω}

theorem attach_of_get?_eq_some (h : r.get? id = some i) (e : Endpoint) : r.attach id e = (i, r) := by
  simp only [get?] at h
  simp [attach, h]

/-- Registered under an identity is a session of it, and who is not registered is over. -/
structure Orderly (r : Registry) : Prop where
  registered : ∀ {id i}, r.get? id = some i → ∃ s, r.session? i = some s ∧ s.id = id
  ended : ∀ {i s}, r.session? i = some s → r.get? s.id ≠ some i → s.Over

theorem orderly_empty : ({} : Registry).Orderly where
  registered h := by simp [get?, Register.get?] at h
  ended h := by simp [session?] at h

namespace Orderly

/-- A call that creates no session: it registers none, and who is taken off is over. -/
theorem of_kept (h : r.Orderly) (hkept : r.Kept r')
    (hget : ∀ {id i}, r'.get? id = some i → r.get? id = some i)
    (hoff : ∀ {id i s'}, r.get? id = some i → r'.get? id ≠ some i → r'.session? i = some s' → s'.Over) :
    r'.Orderly where
  registered hi := by
    obtain ⟨s, hs, rfl⟩ := h.registered (hget hi)
    obtain ⟨s', hs', hbecomes⟩ := hkept.session hs
    exact ⟨s', hs', hbecomes.id⟩
  ended {i s'} hs' hne := by
    obtain ⟨s, hs, hbecomes⟩ := hkept.exists_earlier hs'
    rw [hbecomes.id] at hne
    by_cases hi : r.get? s.id = some i
    · exact hoff hi hne hs'
    · exact hbecomes.keepsOver (h.ended hs hi)

theorem attach (h : r.Orderly) (id : InstanceId) (e : Endpoint) : (r.attach id e).2.Orderly := by
  cases hget : r.get? id with
  | some i => rwa [attach_of_get?_eq_some hget]
  | none =>
    rw [attach_of_get?_eq_none hget]
    constructor
    · intro id' j hj
      simp only [get?, Register.get?_set] at hj
      split_ifs at hj with hid
      · subst hid
        obtain rfl := Option.some.inj hj
        exact ⟨Session.new id e, by simp [session?], rfl⟩
      · obtain ⟨s, hs, rfl⟩ := h.registered hj
        refine ⟨s, ?_, rfl⟩
        rw [session?, List.getElem?_append_left (lt_of_session? hs)]
        exact hs
    · intro j s hs hne
      rcases old_or_last hs with hs | ⟨rfl, rfl⟩
      · refine h.ended hs ?_
        intro hreg
        have hid : id ≠ s.id := by
          rintro rfl
          simp [hget] at hreg
        simp only [get?, Register.get?_set, hid, if_false] at hne
        exact hne hreg
      · simp [get?, Register.get?_set, Session.new] at hne

theorem teardown (h : r.Orderly) (id : InstanceId) (w : ω) : (r.teardown t id w).2.1.Orderly := by
  simp only [Registry.teardown]
  split
  next i hi =>
    have hsame : r.Kept { r with registered := r.registered.erase id } := .of_sessions rfl
    refine h.of_kept (hsame.trans (kept_close t _ w i)) ?_ ?_
    · intro id' j hj
      simp only [get?, close_registered, Register.get?_erase] at hj
      split_ifs at hj
      exact hj
    · intro id' j s' hj hne hs'
      simp only [get?, close_registered, Register.get?_erase] at hj hne
      split_ifs at hne with hid
      · subst hid
        obtain rfl : i = j := Option.some.inj (hi.symm.trans hj)
        exact over_close t _ w hs'
      · exact absurd hj hne
  next => exact h

theorem closeAll (h : r.Orderly) (w : ω) : (r.closeAll t w).1.Orderly := by
  have hsame : r.Kept { r with registered := [] } := .of_sessions rfl
  rw [closeAll_eq]
  refine h.of_kept (hsame.trans (kept_closeEach t _ w (r.registered.map (·.2)))) ?_ ?_
  · intro id i hi
    rw [get?, closeEach_registered] at hi
    simp [Register.get?] at hi
  · intro id i s' hi _ hs'
    have hmem : i ∈ r.registered.map (·.2) := List.mem_map_of_mem (Register.mem_of_get? hi)
    exact over_closeEach t _ w hmem hs'

theorem session (h : r.Orderly) (i : SessionId) (call : SessionCall) (w : ω) :
    (RegistryCall.run t r w (.session i call)).1.Orderly := by
  simp only [RegistryCall.run]
  split
  next s hs => exact h.of_kept (.put hs (s.becomes_call t call w)) id fun hi hne => absurd hi hne
  next => exact h

/-- **One call** keeps the order. -/
theorem run (h : r.Orderly) (c : RegistryCall) (w : ω) : (c.run t r w).1.Orderly := by
  cases c with
  | attach id e => exact h.attach id e
  | get id => exact h
  | teardown id => exact h.teardown t id w
  | closeAll => exact h.closeAll t w
  | session i call => exact h.session t i call w

theorem after (h : r.Orderly) (calls : List RegistryCall) (w : ω) :
    (after t calls r w).1.Orderly := by
  induction calls generalizing r w with
  | nil => exact h
  | cons c calls ih => exact ih (h.run t c w) _

end Orderly

/-! ### What a call changes -/

/-- **What a call is**: an attach of an identity that has no session creates one; any other call
leaves the sessions that there are. -/
theorem run_cases (c : RegistryCall) (r : Registry) (w : ω) :
    (∃ id e, c = .attach id e ∧ r.get? id = none) ∨ r.Kept (c.run t r w).1 := by
  cases c with
  | attach id e =>
    cases hget : r.get? id with
    | none => exact .inl ⟨id, e, rfl, hget⟩
    | some i => exact .inr (.of_sessions (by rw [RegistryCall.run, attach_of_get?_eq_some hget]))
  | get id => exact .inr (.refl r)
  | teardown id =>
    refine .inr ?_
    simp only [RegistryCall.run, teardown]
    split
    next i _ =>
      have hsame : r.Kept { r with registered := r.registered.erase id } := .of_sessions rfl
      exact hsame.trans (kept_close t _ w i)
    next => exact .refl r
  | closeAll =>
    have hsame : r.Kept { r with registered := [] } := .of_sessions rfl
    exact .inr (hsame.trans (kept_closeEach t _ w _))
  | session i call =>
    refine .inr ?_
    simp only [RegistryCall.run]
    split
    next s hs => exact .put hs (s.becomes_call t call w)
    next => exact .refl r

theorem run_attach_of_get?_eq_none (h : r.get? id = none) (e : Endpoint) (w : ω) :
    (RegistryCall.run t r w (.attach id e)).1.sessions = r.sessions ++ [Session.new id e] := by
  rw [RegistryCall.run, attach_of_get?_eq_none h]

/-- A session goes on to be there. -/
theorem run_session (c : RegistryCall) (w : ω) {s : Session} (hs : r.session? i = some s) :
    ∃ s', (c.run t r w).1.session? i = some s' ∧ s.Becomes s' := by
  rcases run_cases t c r w with ⟨id, e, rfl, hget⟩ | hkept
  · refine ⟨s, ?_, .refl s⟩
    rw [session?, run_attach_of_get?_eq_none t hget, List.getElem?_append_left (lt_of_session? hs)]
    exact hs
  · exact hkept.session hs

theorem after_session (calls : List RegistryCall) (w : ω) {s : Session}
    (hs : r.session? i = some s) :
    ∃ s', (after t calls r w).1.session? i = some s' ∧ s.Becomes s' := by
  induction calls generalizing r w s with
  | nil => exact ⟨s, hs, .refl s⟩
  | cons c calls ih =>
    obtain ⟨s', hs', hbecomes⟩ := run_session t c w hs
    obtain ⟨s'', hs'', hbecomes'⟩ := ih (c.run t r w).2 hs'
    exact ⟨s'', hs'', hbecomes.trans hbecomes'⟩

/-- A call that takes a session off leaves none registered. -/
theorem get?_run_of_takesOff (h : c.TakesOff id) : (c.run t r w).1.get? id = none := by
  rcases h with rfl | rfl
  · simp only [RegistryCall.run, teardown]
    split
    next => simp [get?, close_registered, Register.get?_erase]
    next hnone => exact hnone
  · rw [RegistryCall.run, closeAll_eq, get?, closeEach_registered]
    rfl

/-- Any other call changes who is registered only by an attach, and only where nobody is. -/
theorem get?_run_of_not_takesOff (h : ¬ c.TakesOff id) :
    (c.run t r w).1.get? id = r.get? id ∨
      r.get? id = none ∧ (c.run t r w).1.get? id = some r.sessions.length := by
  simp only [RegistryCall.TakesOff, not_or] at h
  cases c with
  | attach id' e =>
    cases hget : r.get? id' with
    | some j =>
      refine .inl ?_
      rw [RegistryCall.run, attach_of_get?_eq_some hget]
    | none =>
      rw [RegistryCall.run, attach_of_get?_eq_none hget, get?, Register.get?_set]
      split_ifs with hid
      · subst hid
        exact .inr ⟨hget, rfl⟩
      · exact .inl rfl
  | get id' => exact .inl rfl
  | teardown id' =>
    have hne : id' ≠ id := by
      rintro rfl
      exact h.1 rfl
    refine .inl ?_
    simp only [RegistryCall.run, teardown]
    split
    next => rw [get?, close_registered, Register.get?_erase, if_neg hne, get?]
    next => rfl
  | closeAll => exact absurd rfl h.2
  | session j call =>
    refine .inl ?_
    simp only [RegistryCall.run]
    split <;> rfl

/-- Whoever is registered stays so until it is taken off. -/
theorem get?_after_of_some (hget : r.get? id = some i) {calls : List RegistryCall}
    (h : ∀ c ∈ calls, ¬ c.TakesOff id) (w : ω) : (after t calls r w).1.get? id = some i := by
  induction calls generalizing r w with
  | nil => exact hget
  | cons c calls ih =>
    refine ih ?_ (fun c' hc' => h c' (.tail _ hc')) _
    rcases get?_run_of_not_takesOff t (r := r) (w := w) (h c (.head _)) with hsame | ⟨hnone, -⟩
    · exact hsame.trans hget
    · simp [hnone] at hget

/-- A session that is not registered never is again: a new registration is of a new session. -/
theorem get?_run_ne (hi : i < r.sessions.length) (hne : r.get? id ≠ some i) (c : RegistryCall)
    (w : ω) : (c.run t r w).1.get? id ≠ some i := by
  by_cases h : c.TakesOff id
  · rw [get?_run_of_takesOff t h]
    simp
  rcases get?_run_of_not_takesOff t (r := r) (w := w) h with hsame | ⟨-, hnew⟩
  · rwa [hsame]
  · rw [hnew]
    intro heq
    exact absurd (Option.some.inj heq) (Nat.ne_of_gt hi)

theorem length_le_run (c : RegistryCall) (r : Registry) (w : ω) :
    r.sessions.length ≤ (c.run t r w).1.sessions.length := by
  rcases run_cases t c r w with ⟨id, e, rfl, hget⟩ | hkept
  · rw [run_attach_of_get?_eq_none t hget, List.length_append]
    omega
  · exact Nat.le_of_eq hkept.length.symm

theorem get?_after_ne (hi : i < r.sessions.length) (hne : r.get? id ≠ some i)
    (calls : List RegistryCall) (w : ω) : (after t calls r w).1.get? id ≠ some i := by
  induction calls generalizing r w with
  | nil => exact hne
  | cons c calls ih =>
    exact ih (Nat.lt_of_lt_of_le hi (length_le_run t c r w)) (get?_run_ne t hi hne c w) _

/-! ### Two attaches -/

/-- An attach leaves the session that it answers registered. -/
theorem get?_attach (r : Registry) (id : InstanceId) (e : Endpoint) :
    (r.attach id e).2.get? id = some (r.attach id e).1 := by
  cases hget : r.get? id with
  | some i =>
    rw [attach_of_get?_eq_some hget]
    exact hget
  | none =>
    rw [attach_of_get?_eq_none hget, get?, Register.get?_set, if_pos rfl]

/-- An attach answers a session that there is just when that one is registered. -/
theorem attach_eq_iff (hi : i < r.sessions.length) (e : Endpoint) :
    (r.attach id e).1 = i ↔ r.get? id = some i := by
  cases hget : r.get? id with
  | some j =>
    rw [attach_of_get?_eq_some hget, Option.some_inj]
  | none =>
    rw [attach_of_get?_eq_none hget]
    constructor
    · intro heq
      exact absurd heq (Nat.ne_of_gt hi)
    · intro hcontra
      cases hcontra

/-- Calls that take off the session of an identity come to one of them first. -/
theorem attach_again (h : r.Orderly) (hget : r.get? id = some i) (between : List RegistryCall)
    (w : ω) (e : Endpoint) : ((after t between r w).1.attach id e).1 = i ↔
      ∀ c ∈ between, ¬ c.TakesOff id := by
  obtain ⟨s, hs, -⟩ := h.registered hget
  obtain ⟨s', hs', -⟩ := after_session t between w hs
  rw [attach_eq_iff (lt_of_session? hs')]
  constructor
  · intro hagain c hc htakes
    obtain ⟨first, rest, rfl⟩ := List.append_of_mem hc
    obtain ⟨s₁, hs₁, -⟩ := after_session t (first ++ [c]) w hs
    have hoff : (after t (first ++ [c]) r w).1.get? id ≠ some i := by
      rw [after_append]
      exact fun hon => by simp [after, get?_run_of_takesOff t htakes] at hon
    have hsplit : first ++ c :: rest = (first ++ [c]) ++ rest := by simp
    rw [hsplit, after_append] at hagain
    exact get?_after_ne t (lt_of_session? hs₁) hoff rest _ hagain
  · intro hnone
    exact get?_after_of_some t hget hnone w

/-! ### Where sessions come from -/

/-- After a call a session is one that there was, or the one that the call has created. -/
theorem earlier_or_new {s' : Session} (hs' : (c.run t r w).1.session? i = some s') :
    (∃ s, r.session? i = some s ∧ s.Becomes s') ∨
      c = .attach s'.id s'.endpoint ∧ r.get? s'.id = none ∧ i = r.sessions.length := by
  rcases run_cases t c r w with ⟨id, e, rfl, hget⟩ | hkept
  · rw [session?, run_attach_of_get?_eq_none t hget] at hs'
    rcases old_or_last hs' with hs' | ⟨rfl, rfl⟩
    · exact .inl ⟨s', hs', .refl s'⟩
    · exact .inr ⟨rfl, hget, rfl⟩
  · exact .inl (hkept.exists_earlier hs')

/-- Every session was created by an attach of its identity at its endpoint. -/
theorem exists_attach {calls : List RegistryCall} {w : ω} {s : Session}
    (hs : (after t calls {} w).1.session? i = some s) :
    ∃ before later, calls = before ++ .attach s.id s.endpoint :: later ∧
      (after t before {} w).1.session? i = none ∧
      ((after t before {} w).1.attach s.id s.endpoint).1 = i := by
  induction calls using List.reverseRecOn generalizing s with
  | nil => simp [after, session?] at hs
  | append_singleton calls c ih =>
    rw [after_append] at hs
    rcases earlier_or_new t hs with ⟨s₀, hs₀, hbecomes⟩ | ⟨rfl, hget, rfl⟩
    · obtain ⟨before, later, rfl, hnone, hanswer⟩ := ih hs₀
      rw [hbecomes.id, hbecomes.endpoint]
      exact ⟨before, later ++ [c], by simp, hnone, hanswer⟩
    · refine ⟨calls, [], rfl, List.getElem?_eq_none (Nat.le_refl _), ?_⟩
      rw [attach_of_get?_eq_none hget]

/-- The session of an identity is over once a call has taken it off, and stays as that call left
it: no call changes it and no operation on it reaches a peer. -/
theorem over_of_takesOff (h : r.Orderly) (hget : r.get? id = some i) (hc : c.TakesOff id) (w : ω) :
    ∃ s, s.id = id ∧ s.Over ∧ ∀ later, (after t (c :: later) r w).1.session? i = some s := by
  obtain ⟨s, hs, rfl⟩ := h.registered hget
  obtain ⟨s', hs', hbecomes⟩ := run_session t c w hs
  have hoff : (c.run t r w).1.get? s'.id ≠ some i := by
    rw [hbecomes.id, get?_run_of_takesOff t hc]
    simp
  have hover := (h.run t c w).ended hs' hoff
  refine ⟨s', hbecomes.id, hover, fun later => ?_⟩
  obtain ⟨s'', hs'', hbecomes'⟩ := after_session t later (c.run t r w).2 hs'
  rwa [hbecomes'.ended hover] at hs''

end

/-- **One session per identity.** After any calls on a new registry and operations on its sessions,
over any peers:

* two attaches of an identity answer the same session just when it was not taken off between them;
* an attach answers a session of its identity, and every session was created by the attach that
  answered it first, of its identity and at its endpoint;
* a session that is not over is the registered one of its identity;
* a session that is taken off the registry is over without a connection, and stays that very
  session whatever is called later, while no operation on it sends anything. -/
theorem one_session_per_identity {calls : List RegistryCall} {w w' : ω} {r : Registry}
    (hrun : after t calls {} w = (r, w')) :
    (∀ id e e' between, ((after t between (r.attach id e).2 w').1.attach id e').1 =
      (r.attach id e).1 ↔ .teardown id ∉ between ∧ .closeAll ∉ between) ∧
    (∀ id e, ∃ s, (r.attach id e).2.session? (r.attach id e).1 = some s ∧ s.id = id) ∧
    (∀ i s, r.session? i = some s → ∃ before later,
      calls = before ++ .attach s.id s.endpoint :: later ∧
      (after t before {} w).1.session? i = none ∧
      ((after t before {} w).1.attach s.id s.endpoint).1 = i) ∧
    (∀ i s, r.session? i = some s → s.state.isTerminal = false → r.get? s.id = some i) ∧
    (∀ id i c, r.get? id = some i → c = .teardown id ∨ c = .closeAll →
      ∃ s, s.id = id ∧ s.state.isTerminal ∧ s.connection = none ∧
        (∀ later, (after t (c :: later) r w').1.session? i = some s) ∧
        ∀ (call : SessionCall) (w : ω), call.run t s w = (s, w)) := by
  obtain ⟨rfl, rfl⟩ : (after t calls {} w).1 = r ∧ (after t calls {} w).2 = w' := by simp [hrun]
  have horderly := orderly_empty.after t calls w
  refine ⟨?again, ?answers, fun i s hs => exists_attach t hs, ?registered, ?ended⟩
  case again =>
    intro id e e' between
    have hon := horderly.attach id e
    rw [attach_again t hon (get?_attach _ id e)]
    constructor
    · intro hnone
      exact ⟨fun hmem => hnone _ hmem (.inl rfl), fun hmem => hnone _ hmem (.inr rfl)⟩
    · rintro ⟨hdown, hall⟩ c hc (rfl | rfl)
      · exact hdown hc
      · exact hall hc
  case answers =>
    intro id e
    exact (horderly.attach id e).registered (get?_attach _ id e)
  case registered =>
    intro i s hs hstate
    by_contra hne
    have hover := (horderly.ended hs hne).isTerminal
    simp [hstate] at hover
  case ended =>
    intro id i c hget hc
    obtain ⟨s, hid, hover, hstays⟩ := over_of_takesOff t horderly hget hc (after t calls {} w).2
    exact ⟨s, hid, hover.isTerminal, hover.connection, hstays, fun call w => hover.call t call w⟩

/-- The first session of an instance is torn down, used through its old number and taken for the
second one by nobody; then the second one is torn down. -/
theorem one_session_per_identity_of_two :
    ∃ r w', after Transport.mute [.attach 7 (.localProcess 7), .session 0 .connect, .teardown 7,
        .session 0 .connect, .attach 7 (.localProcess 8)] {} 0 = (r, w') ∧
      (r.attach 7 (.localProcess 9)).1 = 1 ∧ r.get? 7 = some 1 ∧
      ∃ s, (after Transport.mute [.teardown 7, .session 1 .connect] r w').1.session? 1 = some s ∧
        s.state.isTerminal ∧ s.connection = none := by
  refine ⟨_, _, rfl, rfl, ?_⟩
  obtain ⟨-, -, -, hregistered, hover⟩ := one_session_per_identity Transport.mute
    (.refl (after Transport.mute [.attach 7 (.localProcess 7), .session 0 .connect, .teardown 7,
      .session 0 .connect, .attach 7 (.localProcess 8)] {} 0))
  have hon := hregistered 1 (Session.new 7 (.localProcess 8)) rfl rfl
  obtain ⟨s, -, hterminal, hnone, hstays, -⟩ := hover 7 1 (.teardown 7) hon (.inl rfl)
  exact ⟨hon, s, hstays [.session 1 .connect], hterminal, hnone⟩

end Registry

end VmMonitor
