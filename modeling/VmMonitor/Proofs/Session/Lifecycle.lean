import Mathlib.Data.List.Basic
import VmMonitor.Proofs.Peer.Traffic

/-!
# The life of a session

A session is created once and then operated on in any order: connected, checked, flushed, told of
updates, given up, closed. Over any peer, what it may have sent so far is one of four things
(`Session.Past`): nothing; one attempt to connect that failed; one connection that was opened and
has only been checked and asked since; or such a connection, closed last. Which of them it is goes
with the state, and every operation keeps it so.

## What is proved

* `Session.Past.run` — **the invariant**: it holds after any operations.
* `Session.life` — what it comes to: an attached session holds a connection and no other does, at
  most one connection is ever opened, it is closed once, with the entry into a terminal state, and
  nothing is sent after that; and a session that has tried to connect only tells how that went.
-/

namespace VmMonitor

variable {ω : Type} (t : Transport ω)

/-! ### States -/

namespace SessionState

theorem next_of_isTerminal {s : SessionState} (h : s.isTerminal) (e : SessionEvent) :
    s.next e = s := by
  simp [next, h]

/-- Whoever is not over is over without the other side. -/
theorem next_livenessLost {s : SessionState} (h : s.isTerminal = false) :
    s.next .livenessLost = detached := by
  simp [next, h]

/-- An attached session stays attached or is over. -/
theorem isAttached_or_isTerminal_next {s : SessionState} (h : s.isAttached) (e : SessionEvent) :
    (s.next e).isAttached ∨ (s.next e).isTerminal := by
  have hfailed (count : Nat) : SessionState.isAttached (if maxUpdateErrors < count then detached
      else attachedUpdateError) ∨ SessionState.isTerminal (if maxUpdateErrors < count then detached
      else attachedUpdateError) := by
    split_ifs
    · exact .inr rfl
    · exact .inl rfl
  cases s <;> simp only [isAttached, Bool.false_eq_true] at h <;> cases e
  case attached.updateFailed count => exact hfailed count
  case attachedUpdateError.updateFailed count => exact hfailed count
  all_goals simp [next, isTerminal, isAttached]

/-- Only the start of an attempt to connect leads to its being under way. -/
theorem next_ne_connecting {s : SessionState} (hs : s ≠ connecting) {e : SessionEvent}
    (he : e ≠ .connectStarted) : s.next e ≠ connecting := by
  by_cases hover : s.isTerminal
  · rwa [next_of_isTerminal hover]
  by_cases hon : s.isAttached
  · intro heq
    simpa [heq, isAttached, isTerminal] using isAttached_or_isTerminal_next hon e
  · cases s <;> simp [isTerminal, isAttached] at hover hon hs
    cases e <;> simp [next, isTerminal] at he ⊢

theorem next_init (e : SessionEvent) :
    init.next e = init ∨ init.next e = connecting ∨ (init.next e).isTerminal := by
  cases e <;> simp [next, isTerminal]

theorem not_isTerminal_of_isAttached {s : SessionState} (h : s.isAttached) :
    s.isTerminal = false := by
  cases s <;> simp_all [isAttached, isTerminal]

end SessionState

/-! ### Operations -/

/-- An operation on a session. -/
inductive SessionCall where
  | connect
  | isLive
  | flush
  | markNotAttachable
  | close
  | updateSucceeded
  /-- An update failed, the `count`-th one. -/
  | updateFailed (count : Nat)

namespace SessionCall

/-- What an operation leaves of a session and its peer. -/
def run (s : Session) (w : ω) : SessionCall → Session × ω
  | connect => (s.connect t w).2
  | isLive => (s.isLive t w).2
  | flush => (s.flush, w)
  | markNotAttachable => s.markNotAttachable t w
  | close => s.close t w
  | updateSucceeded => s.apply t .updateSucceeded w
  | updateFailed count => s.apply t (.updateFailed count) w

end SessionCall

namespace Session

/-- A session after some operations. -/
def after : List SessionCall → Session → ω → Session × ω
  | [], s, w => (s, w)
  | call :: calls, s, w => after calls (call.run t s w).1 (call.run t s w).2

/-! ### One operation -/

theorem disconnect_of_none {s : Session} (h : s.connection = none) (w : ω) :
    s.disconnect t w = (s, w) := by
  simp [disconnect, h]

theorem disconnect_of_some {s : Session} {c : Connection} (h : s.connection = some c) (w : ω) :
    s.disconnect t w = ({ s with connection := none }, t.close c.id w) := by
  simp [disconnect, h]

theorem flush_of_none {s : Session} (h : s.connection = none) : s.flush = s := by
  simp only [flush, h, Option.map_none]
  rw [← h]

theorem apply_of_next_eq {s : Session} {e : SessionEvent} (h : s.state.next e = s.state) (w : ω) :
    s.apply t e w = (s, w) := by
  simp [apply, h]

theorem apply_of_isTerminal {s : Session} (h : s.state.isTerminal) (e : SessionEvent) (w : ω) :
    s.apply t e w = (s, w) :=
  apply_of_next_eq t (SessionState.next_of_isTerminal h e) w

/-- Whatever happens, the state moves on by the event. -/
theorem apply_state (s : Session) (e : SessionEvent) (w : ω) :
    (s.apply t e w).1.state = s.state.next e := by
  simp only [apply]
  split_ifs with h h'
  · exact h.symm
  · simp only [disconnect]
    split <;> rfl
  · rfl

/-- Whoever loses the other side is over, if not before. -/
theorem isTerminal_apply_livenessLost (s : Session) (w : ω) :
    (s.apply t .livenessLost w).1.state.isTerminal := by
  rw [apply_state]
  by_cases hs : s.state.isTerminal
  · rwa [SessionState.next_of_isTerminal hs]
  · rw [SessionState.next_livenessLost (by simpa using hs)]
    rfl

/-- Without a connection nothing is sent. -/
theorem apply_of_none {s : Session} (h : s.connection = none) (e : SessionEvent) (w : ω) :
    s.apply t e w = ({ s with state := s.state.next e }, w) := by
  simp only [apply]
  split_ifs with h' h''
  · rw [h']
  · refine disconnect_of_none t ?_ w
    exact h
  · rfl

/-- An event that does not end a session sends nothing. -/
theorem apply_of_next_not_isTerminal {s : Session} {e : SessionEvent}
    (h : ¬ (s.state.next e).isTerminal) (w : ω) :
    s.apply t e w = ({ s with state := s.state.next e }, w) := by
  simp only [apply]
  split_ifs with h'
  · rw [h']
  · rfl

/-- An event that ends a session closes its connection. -/
theorem apply_of_some {s : Session} {c : Connection} (h : s.connection = some c) {e : SessionEvent}
    (hs : s.state.isTerminal = false) (he : (s.state.next e).isTerminal) (w : ω) :
    s.apply t e w = ({ s with state := s.state.next e, connection := none }, t.close c.id w) := by
  have hne : s.state.next e ≠ s.state := by
    intro heq
    rw [heq, hs] at he
    cases he
  simp only [apply, hne, he, if_false, if_true]
  refine disconnect_of_some t ?_ w
  exact h

/-- An event sends nothing but the end of the connection. -/
theorem sends_apply {P : Traffic → Prop} (hP : ∀ c, P (.close c)) (s : Session) (e : SessionEvent)
    (x : Logged ω) : Sends P x (s.apply t.logged e x).2 := by
  simp only [apply]
  split_ifs
  · exact .refl x
  · simp only [disconnect]
    split
    · exact ⟨[.close _], rfl, by simpa using hP _⟩
    · exact .refl x
  · exact .refl x

/-- An event leaves the connection or gives it up. -/
theorem apply_connection (s : Session) (e : SessionEvent) (w : ω) :
    (s.apply t e w).1.connection = s.connection ∨ (s.apply t e w).1.connection = none := by
  simp only [apply]
  split_ifs
  · exact .inl rfl
  · simp only [disconnect]
    split
    · exact .inr rfl
    · exact .inl rfl
  · exact .inl rfl

section

variable {t} {s : Session} {c : Connection} {w w' : ω}

theorem isLive_of_none (hc : s.connection = none) (w : ω) :
    s.isLive t w = (false, s.apply t .livenessLost w) := by
  simp [isLive, hc]

theorem isLive_of_alive (hc : s.connection = some c) (halive : t.isAlive c.id w = (true, w')) :
    s.isLive t w = (true, s, w') := by
  simp [isLive, hc, halive]

theorem isLive_of_dead (hc : s.connection = some c) (hdead : t.isAlive c.id w = (false, w')) :
    s.isLive t w = (false, s.apply t .livenessLost w') := by
  simp [isLive, hc, hdead]

end

/-- **How a liveness check goes.** Somebody answers over the connection, and the session stays as it
is; or nobody does, or there is no connection, and the session is over. -/
theorem isLive_cases (s : Session) (w : ω) :
    (∃ c w', s.connection = some c ∧ t.isAlive c.id w = (true, w') ∧
      s.isLive t w = (true, s, w')) ∨
    (∃ c w', s.connection = some c ∧ t.isAlive c.id w = (false, w') ∧
      s.isLive t w = (false, s.apply t .livenessLost w')) ∨
    (s.connection = none ∧ s.isLive t w = (false, s.apply t .livenessLost w)) := by
  cases hc : s.connection with
  | none => exact .inr (.inr ⟨rfl, isLive_of_none hc w⟩)
  | some c =>
    rcases ha : t.isAlive c.id w with ⟨_ | _, w'⟩
    · exact .inr (.inl ⟨c, w', rfl, ha, isLive_of_dead hc ha⟩)
    · exact .inl ⟨c, w', rfl, ha, isLive_of_alive hc ha⟩

theorem connect_of_ne_init {s : Session} (h : s.state ≠ .init) (w : ω) :
    s.connect t w = (s.outcome, s, w) := by
  simp [connect, h]

section

variable {t} {s : Session} {w w₁ w₂ w₃ : ω} {c : ConnectionId} {e : ConnectionError}
  (hs : s.state = .init) (hc : s.connection = none)
include hs hc

/-- A first attempt to connect begins without a message. -/
theorem apply_connectStarted (w : ω) :
    s.apply t .connectStarted w = ({ s with state := .connecting }, w) := by
  rw [apply_of_none t hc, hs]
  rfl

theorem connect_of_refused (ho : t.connect s.endpoint w = (.error e, w₁)) :
    s.connect t w = { s with state := .connecting }.attachFailed t e w₁ := by
  simp only [connect, apply_connectStarted hs hc, ho]
  exact if_neg (not_not_intro hs)

theorem connect_of_dead (ho : t.connect s.endpoint w = (.ok c, w₁))
    (ha : t.isAlive c w₁ = (false, w₂)) :
    s.connect t w = (.error (.permanentDetach s.id),
      { s with state := .connecting }.apply t .livenessLost (t.close c w₂)) := by
  simp only [connect, apply_connectStarted hs hc, ho, ha]
  exact if_neg (not_not_intro hs)

theorem connect_of_probe_error (ho : t.connect s.endpoint w = (.ok c, w₁))
    (ha : t.isAlive c w₁ = (true, w₂)) (hp : (probe (t.source c)).run w₂ = (.error e, w₃)) :
    s.connect t w = { s with state := .connecting }.attachFailed t e (t.close c w₃) := by
  simp only [connect, apply_connectStarted hs hc, ho, ha, hp]
  exact if_neg (not_not_intro hs)

theorem connect_of_probe_ok {lockUsage : Bool} (ho : t.connect s.endpoint w = (.ok c, w₁))
    (ha : t.isAlive c w₁ = (true, w₂)) (hp : (probe (t.source c)).run w₂ = (.ok lockUsage, w₃)) :
    s.connect t w = (.ok (),
      { s with state := .connecting, lockUsage, connection := some { id := c } }.apply t .connected
        w₃) := by
  simp only [connect, apply_connectStarted hs hc, ho, ha, hp]
  exact if_neg (not_not_intro hs)

end

/-- An attempt to connect ended without a connection, in `w`. -/
structure Ended (s : Session) (x : Except MonitorError Unit × Session × ω) (w : ω) : Prop where
  error : ∃ e, x.1 = .error e
  isTerminal : x.2.1.state.isTerminal
  connection : x.2.1.connection = none
  id : x.2.1.id = s.id
  endpoint : x.2.1.endpoint = s.endpoint
  world : x.2.2 = w

theorem ended_attachFailed {s : Session} (hc : s.connection = none) (e : ConnectionError) (w : ω) :
    Ended s (({ s with state := .connecting } : Session).attachFailed t e w) w := by
  unfold attachFailed
  split_ifs with h
  · rw [apply_of_none t (by exact hc)]
    exact ⟨⟨_, rfl⟩, by simp [SessionState.next, SessionState.isTerminal], hc, rfl, rfl, rfl⟩
  · rw [apply_of_none t (by exact hc)]
    exact ⟨⟨_, rfl⟩, by simp [SessionState.next, SessionState.isTerminal], hc, rfl, rfl, rfl⟩

/-- **How an attempt to connect goes.** No connection is opened; or one is, and closed again because
it is dead or of no use; or one is, and kept. -/
theorem connect_cases {s : Session} (hs : s.state = .init) (hc : s.connection = none) (w : ω) :
    (∃ e w₁, t.connect s.endpoint w = (.error e, w₁) ∧ Ended s (s.connect t w) w₁) ∨
    ∃ c w₁ alive w₂, t.connect s.endpoint w = (.ok c, w₁) ∧ t.isAlive c w₁ = (alive, w₂) ∧
      ((alive = false ∧ Ended s (s.connect t w) (t.close c w₂)) ∨
        (alive = true ∧ ∃ e w₃, (probe (t.source c)).run w₂ = (.error e, w₃) ∧
          Ended s (s.connect t w) (t.close c w₃)) ∨
        (alive = true ∧ ∃ lockUsage w₃, (probe (t.source c)).run w₂ = (.ok lockUsage, w₃) ∧
          s.connect t w = (.ok (),
            { s with state := .attached, lockUsage, connection := some { id := c } }, w₃))) := by
  rcases ho : t.connect s.endpoint w with ⟨e | c, w₁⟩
  · rw [connect_of_refused hs hc ho]
    exact .inl ⟨e, w₁, rfl, ended_attachFailed t hc e w₁⟩
  rcases ha : t.isAlive c w₁ with ⟨_ | _, w₂⟩
  · refine .inr ⟨c, w₁, false, w₂, rfl, ha, .inl ⟨rfl, ?_⟩⟩
    rw [connect_of_dead hs hc ho ha, apply_of_none t (by exact hc)]
    exact ⟨⟨_, rfl⟩, by simp [SessionState.next, SessionState.isTerminal], hc, rfl, rfl, rfl⟩
  rcases hp : (probe (t.source c)).run w₂ with ⟨e | lockUsage, w₃⟩
  · rw [connect_of_probe_error hs hc ho ha hp]
    exact .inr ⟨c, w₁, true, w₂, rfl, ha, .inr (.inl ⟨rfl, e, w₃, hp, ended_attachFailed t hc e _⟩)⟩
  · rw [connect_of_probe_ok hs hc ho ha hp,
      apply_of_next_not_isTerminal t (by simp [SessionState.next, SessionState.isTerminal])]
    exact .inr ⟨c, w₁, true, w₂, rfl, ha, .inr (.inr ⟨rfl, lockUsage, w₃, hp, rfl⟩)⟩

/-- A fresh connection is only asked. -/
theorem sends_probe (c : ConnectionId) (x : Logged ω) :
    Sends (fun e => e.isAsk c) x ((probe (t.logged.source c)).run x).2 :=
  ((t.source_logged_alike c x).probe x x.2 ⟨rfl, .refl x⟩).2.2

/-! ### What a session has sent -/

/-- What a session may have sent so far. -/
inductive Past (s : Session) : List Traffic → Prop
  /-- Nothing: it has not tried to connect, or was given up before. -/
  | silent : s.connection = none → s.state = .init ∨ s.state.isTerminal → Past s []
  /-- An attempt to connect that failed. -/
  | declined (e : ConnectionError) : s.connection = none → s.state.isTerminal →
      Past s [.connect s.endpoint (.error e)]
  /-- A connection that is still open. -/
  | opened (c : Connection) (l : List Traffic) : s.connection = some c → s.state.isAttached →
      (∀ x ∈ l, x.isUse c.id) → Past s (.connect s.endpoint (.ok c.id) :: l)
  /-- A connection that was closed. -/
  | closed (c : ConnectionId) (l : List Traffic) : s.connection = none → s.state.isTerminal →
      (∀ x ∈ l, x.isUse c) → Past s (.connect s.endpoint (.ok c) :: (l ++ [.close c]))

namespace Past

variable {t} {s : Session} {log : List Traffic}

theorem new (id : InstanceId) (endpoint : Endpoint) : (Session.new id endpoint).Past [] :=
  silent rfl (.inl rfl)

/-- Only an attached session holds a connection. -/
theorem isSome_connection_iff (h : s.Past log) : s.connection.isSome ↔ s.state.isAttached := by
  have hno : ∀ x : SessionState, x = .init ∨ x.isTerminal → ¬ x.isAttached := by
    intro x hx
    cases x <;> simp_all [SessionState.isTerminal, SessionState.isAttached]
  cases h with
  | silent hc hs => simp [hc, hno _ hs]
  | declined e hc hs => simp [hc, hno _ (.inr hs)]
  | opened c l hc hs hl => simp [hc, hs]
  | closed c l hc hs hl => simp [hc, hno _ (.inr hs)]

/-- A session that has not tried to connect has sent nothing. -/
theorem eq_nil_of_init (h : s.Past log) (hs : s.state = .init) : log = [] ∧ s.connection = none := by
  cases h with
  | silent hc _ => exact ⟨rfl, hc⟩
  | declined e _ hs' => simp [hs, SessionState.isTerminal] at hs'
  | opened c l _ hs' _ => simp [hs, SessionState.isAttached] at hs'
  | closed c l _ hs' _ => simp [hs, SessionState.isTerminal] at hs'

theorem init_or_attached_or_terminal (h : s.Past log) :
    s.state = .init ∨ s.state.isAttached ∨ s.state.isTerminal := by
  cases h with
  | silent _ hs => exact hs.imp_right .inr
  | declined _ _ hs => exact .inr (.inr hs)
  | opened _ _ _ hs _ => exact .inr (.inl hs)
  | closed _ _ _ hs _ => exact .inr (.inr hs)

/-- Between two operations no session is connecting. -/
theorem state_ne_connecting (h : s.Past log) : s.state ≠ .connecting := by
  intro heq
  simpa [heq, SessionState.isAttached, SessionState.isTerminal] using h.init_or_attached_or_terminal

/-- The open connection is used. -/
theorem use (h : s.Past log) {c : Connection} (hc : s.connection = some c) {l : List Traffic}
    (hl : ∀ x ∈ l, x.isUse c.id) : s.Past (log ++ l) := by
  cases h with
  | silent hc' _ => simp [hc] at hc'
  | declined e hc' _ => simp [hc] at hc'
  | closed c' l' hc' _ _ => simp [hc] at hc'
  | opened c' l' hc' hs hl' =>
    obtain rfl : c = c' := by simpa [hc] using hc'
    exact opened c (l' ++ l) hc hs fun x hx => (List.mem_append.1 hx).elim (hl' x) (hl x)

/-- Any event but the start of an attempt to connect. -/
theorem apply (h : s.Past log) {e : SessionEvent} (he : e ≠ .connectStarted) (w : ω) :
    (s.apply t.logged e (log, w)).1.Past (s.apply t.logged e (log, w)).2.1 := by
  have he := SessionState.next_ne_connecting h.state_ne_connecting he
  by_cases hover : s.state.isTerminal
  · rwa [apply_of_isTerminal _ hover]
  cases h with
  | silent hc hs =>
    have hs := hs.resolve_right hover
    rw [apply_of_none _ hc]
    refine silent hc ?_
    rw [hs] at he ⊢
    exact (SessionState.next_init e).imp_right fun h => h.resolve_left he
  | declined _ _ hs => exact absurd hs hover
  | closed _ _ _ hs _ => exact absurd hs hover
  | opened c l hc hs hl =>
    by_cases hend : (s.state.next e).isTerminal
    · rw [apply_of_some _ hc (by simpa using hover) hend]
      exact closed c.id l rfl hend hl
    · have hs' := (SessionState.isAttached_or_isTerminal_next hs e).resolve_right hend
      rw [apply_of_next_not_isTerminal _ hend]
      exact opened c l hc hs' hl

/-- An attempt to connect is the first thing that is sent, whatever others have sent before. -/
theorem of_connect (hs : s.state = .init) (hc : s.connection = none) (x : Logged ω) :
    ∃ l, (s.connect t.logged x).2.2.1 = x.1 ++ l ∧ l ≠ [] ∧ (s.connect t.logged x).2.1.Past l ∧
      (s.connect t.logged x).2.1.endpoint = s.endpoint := by
  rcases connect_cases t.logged hs hc x with
    ⟨e, w₁, ho, hend⟩ | ⟨c, w₁, alive, w₂, ho, ha, hrest⟩
  · refine ⟨[.connect s.endpoint (.error e)], ?_, by simp, ?_, hend.endpoint⟩
    · rw [hend.world, Transport.logged_connect ho]
    · exact hend.endpoint ▸ declined e hend.connection hend.isTerminal
  have hlog : w₂.1 = x.1 ++ [.connect s.endpoint (.ok c), .isAlive c alive] := by
    rw [Transport.logged_isAlive ha, Transport.logged_connect ho]
    simp
  -- What a kept connection, or one that turns out to be of no use, was asked first.
  have hprobe : ∀ {r w₃}, (probe (t.logged.source c)).run w₂ = (r, w₃) →
      ∃ l, w₃.1 = x.1 ++ .connect s.endpoint (.ok c) :: l ∧ ∀ x ∈ l, x.isUse c := by
    intro r w₃ hp
    obtain ⟨l, hl, hask⟩ := sends_probe t c w₂
    refine ⟨.isAlive c alive :: l, ?_, ?_⟩
    · rw [hp, hlog] at hl
      simpa using hl
    · rintro x (_ | ⟨_, hx⟩)
      · simp [Traffic.isUse]
      · exact Traffic.isUse_of_isAsk (hask x hx)
  rcases hrest with ⟨-, hend⟩ | ⟨-, e, w₃, hp, hend⟩ | ⟨-, lockUsage, w₃, hp, hok⟩
  · refine ⟨.connect s.endpoint (.ok c) :: ([.isAlive c alive] ++ [.close c]), ?_, by simp, ?_,
      hend.endpoint⟩
    · rw [hend.world, Transport.logged_close, hlog]
      simp
    · refine hend.endpoint ▸ closed c [.isAlive c alive] hend.connection hend.isTerminal ?_
      simp [Traffic.isUse]
  · obtain ⟨l, hl, huse⟩ := hprobe hp
    refine ⟨.connect s.endpoint (.ok c) :: (l ++ [.close c]), ?_, by simp, ?_, hend.endpoint⟩
    · rw [hend.world, Transport.logged_close, hl]
      simp
    · exact hend.endpoint ▸ closed c l hend.connection hend.isTerminal huse
  · obtain ⟨l, hl, huse⟩ := hprobe hp
    refine ⟨.connect s.endpoint (.ok c) :: l, ?_, by simp, ?_, ?_⟩
    · rw [hok]
      exact hl
    · rw [hok]
      exact opened { id := c } l rfl rfl huse
    · rw [hok]

/-- An attempt to connect, or the answer how it went. -/
theorem connect (h : s.Past log) (w : ω) :
    (s.connect t.logged (log, w)).2.1.Past (s.connect t.logged (log, w)).2.2.1 := by
  rcases ne_or_eq s.state .init with hs | hs
  · rwa [connect_of_ne_init _ hs]
  obtain ⟨rfl, hc⟩ := h.eq_nil_of_init hs
  obtain ⟨l, hl, -, hpast, -⟩ := of_connect (t := t) hs hc ([], w)
  rwa [hl]

/-- A liveness check. -/
theorem isLive (h : s.Past log) (w : ω) :
    (s.isLive t.logged (log, w)).2.1.Past (s.isLive t.logged (log, w)).2.2.1 := by
  have huse {c : Connection} {alive : Bool} {x : Logged ω} (hc : s.connection = some c)
      (ha : t.logged.isAlive c.id (log, w) = (alive, x)) : s.Past x.1 := by
    rw [Transport.logged_isAlive ha]
    exact h.use hc (by simp [Traffic.isUse])
  rcases s.isLive_cases t.logged (log, w) with
    ⟨c, x, hc, ha, hlive⟩ | ⟨c, x, hc, ha, hlive⟩ | ⟨-, hlive⟩
  · rw [hlive]
    exact huse hc ha
  · rw [hlive]
    exact (huse hc ha).apply (by simp) x.2
  · rw [hlive]
    exact h.apply (by simp) w

theorem flush (h : s.Past log) : s.flush.Past log := by
  cases h with
  | silent hc hs => exact silent (by simp [Session.flush, hc]) hs
  | declined e hc hs => exact declined e (by simp [Session.flush, hc]) hs
  | opened c l hc hs hl =>
    exact opened { c with cache := c.cache.flush } l (by simp [Session.flush, hc]) hs hl
  | closed c l hc hs hl => exact closed c l (by simp [Session.flush, hc]) hs hl

theorem close (h : s.Past log) (w : ω) :
    (s.close t.logged (log, w)).1.Past (s.close t.logged (log, w)).2.1 := by
  have hpast := h.apply (t := t) (e := .livenessLost) (by simp) w
  have hover := isTerminal_apply_livenessLost t.logged s (log, w)
  have hnone : (s.apply t.logged .livenessLost (log, w)).1.connection = none := by
    rw [← Option.not_isSome_iff_eq_none, hpast.isSome_connection_iff]
    intro hon
    simp [SessionState.not_isTerminal_of_isAttached hon] at hover
  simp only [Session.close]
  rwa [disconnect_of_none _ hnone]

/-- Any operation. -/
theorem call (h : s.Past log) (call : SessionCall) (w : ω) :
    (call.run t.logged s (log, w)).1.Past (call.run t.logged s (log, w)).2.1 := by
  cases call with
  | connect => exact h.connect w
  | isLive => exact h.isLive w
  | flush => exact h.flush
  | markNotAttachable => exact h.apply (by simp) w
  | close => exact h.close w
  | updateSucceeded => exact h.apply (by simp) w
  | updateFailed count => exact h.apply (by simp) w

/-- **The invariant**: whatever was done with a session, it has sent what its state tells. -/
theorem run (h : s.Past log) (calls : List SessionCall) (w : ω) :
    (after t.logged calls s (log, w)).1.Past (after t.logged calls s (log, w)).2.1 := by
  induction calls generalizing s log w with
  | nil => exact h
  | cons call calls ih => exact ih (h.call call w) _

/-! ### What that comes to -/

/-- Whoever has sent anything has tried to connect, once. -/
theorem opens_eq (h : s.Past log) (hlog : log ≠ []) : opens log = [s.endpoint] := by
  have hno : ∀ {c : ConnectionId} {l : List Traffic}, (∀ x ∈ l, x.isUse c) → opens l = [] :=
    fun hl => opens_eq_nil fun x hx => Traffic.isConnect_of_isUse (hl x hx)
  cases h with
  | silent => exact absurd rfl hlog
  | declined e => rfl
  | opened c l _ _ hl => rw [opens_connect, hno hl]
  | closed c l _ _ hl =>
    have hclose : opens [.close c] = [] := rfl
    rw [opens_connect, opens_append, hno hl, hclose, List.append_nil]

/-- At most one connection is asked for. -/
theorem countP_isConnect_le (h : s.Past log) : log.countP Traffic.isConnect ≤ 1 := by
  have hno : ∀ {c : ConnectionId} {l : List Traffic}, (∀ x ∈ l, x.isUse c) →
      l.countP Traffic.isConnect = 0 :=
    fun hl => List.countP_eq_zero.2 fun x hx => by simp [Traffic.isConnect_of_isUse (hl x hx)]
  cases h with
  | silent => simp
  | declined e => simp [List.countP_cons, Traffic.isConnect]
  | opened c l _ _ hl => simp [List.countP_cons, Traffic.isConnect, hno hl]
  | closed c l _ _ hl => simp [List.countP_cons, Traffic.isConnect, hno hl]

/-- A connection that was opened is closed once with the entry into a terminal state. -/
theorem countP_isClose (h : s.Past log) {e : Endpoint} {c : ConnectionId}
    (hc : .connect e (.ok c) ∈ log) :
    log.countP (Traffic.isClose c) = if s.state.isTerminal then 1 else 0 := by
  have hno : ∀ {c' : ConnectionId} {l : List Traffic}, (∀ x ∈ l, x.isUse c') →
      l.countP (Traffic.isClose c) = 0 :=
    fun hl => List.countP_eq_zero.2 fun x hx => by simp [Traffic.isClose_of_isUse (hl x hx)]
  cases h with
  | silent => simp at hc
  | declined e' => simp at hc
  | opened c' l _ hs hl =>
    simp [Traffic.isClose, hno hl, SessionState.not_isTerminal_of_isAttached hs]
  | closed c' l _ hs hl =>
    obtain rfl : c = c' := by
      rcases List.mem_cons.1 hc with hc | hc
      · cases hc
        rfl
      · rcases List.mem_append.1 hc with hc | hc
        · simpa [Traffic.isUse] using hl _ hc
        · simp at hc
    simp [List.countP_append, Traffic.isClose, hno hl, hs]

/-- Nothing is sent after a connection was closed. -/
theorem eq_nil_of_close (h : s.Past log) {c : ConnectionId} {sent later : List Traffic}
    (hlog : log = sent ++ .close c :: later) : later = [] := by
  have hmem : ∀ {c' : ConnectionId} {l : List Traffic}, (∀ x ∈ l, x.isUse c') →
      .close c ∉ .connect s.endpoint (.ok c') :: l := by
    intro c' l hl hc
    rcases List.mem_cons.1 hc with hc | hc
    · cases hc
    · simpa [Traffic.isUse] using hl _ hc
  have hin : .close c ∈ log := by simp [hlog]
  cases h with
  | silent => simp at hin
  | declined e => simp at hin
  | opened c' l _ _ hl => exact absurd hin (hmem hl)
  | closed c' l _ _ hl =>
    rcases List.eq_nil_or_concat later with rfl | ⟨later, x, rfl⟩
    · rfl
    · have happend : .connect s.endpoint (.ok c') :: l ++ [.close c'] =
          sent ++ .close c :: later ++ [x] := by simpa using hlog
      have hinit := (List.append_inj' happend rfl).1
      exact absurd (hinit ▸ by simp) (hmem hl)

end Past

/-- A session that is over stays as it is. -/
theorem call_state_of_isTerminal {s : Session} (h : s.state.isTerminal) (call : SessionCall) (w : ω) :
    (call.run t s w).1.state = s.state := by
  cases call with
  | connect =>
    have hne : s.state ≠ .init := by
      rintro heq
      simp [heq, SessionState.isTerminal] at h
    simp [SessionCall.run, connect_of_ne_init t hne]
  | isLive =>
    rcases s.isLive_cases t w with ⟨_, _, -, -, hlive⟩ | ⟨_, _, -, -, hlive⟩ | ⟨-, hlive⟩ <;>
      simp [SessionCall.run, hlive, apply_of_isTerminal t h]
  | flush => rfl
  | markNotAttachable => simp [SessionCall.run, markNotAttachable, apply_of_isTerminal t h]
  | close =>
    simp only [SessionCall.run, close, apply_of_isTerminal t h, disconnect]
    split <;> rfl
  | updateSucceeded => simp [SessionCall.run, apply_of_isTerminal t h]
  | updateFailed count => simp [SessionCall.run, apply_of_isTerminal t h]

theorem after_state_of_isTerminal {s : Session} (h : s.state.isTerminal) (calls : List SessionCall)
    (w : ω) : (after t calls s w).1.state = s.state := by
  induction calls generalizing s w with
  | nil => rfl
  | cons call calls ih =>
    have hs := call_state_of_isTerminal t h call w
    exact (ih (by rwa [hs]) _).trans hs

/-- **The life of a session.** After any operations on a new session over any peer: it holds a
connection just when it is attached; a connection was asked for at most once; one that was opened
has been closed once if the session is over and not otherwise, and nothing was sent after that; a
session that is over stays so; and `connect` on a session that is not new sends nothing and tells
how the attempt ended. -/
theorem life {id : InstanceId} {endpoint : Endpoint} {calls : List SessionCall} {w w' : ω}
    {s : Session} {log : List Traffic}
    (hrun : after t.logged calls (Session.new id endpoint) ([], w) = (s, log, w')) :
    (s.connection.isSome ↔ s.state.isAttached) ∧
    log.countP Traffic.isConnect ≤ 1 ∧
    (∀ e c, .connect e (.ok c) ∈ log →
      log.countP (Traffic.isClose c) = (if s.state.isTerminal then 1 else 0) ∧
      ∀ sent later, log = sent ++ .close c :: later → later = []) ∧
    (s.state.isTerminal → ∀ more, (after t.logged more s (log, w')).1.state = s.state) ∧
    (s.state ≠ .init → ∃ answer, s.connect t.logged (log, w') = (answer, s, log, w') ∧
      (answer = .ok () ↔ s.state.isAttached) ∧
      (s.state = .detached → answer = .error (.permanentDetach s.id)) ∧
      (s.state = .connectionRefused → ∃ cause, answer = .error (.connectionRefused s.id cause)) ∧
      (s.state = .errorDuringAttach → ∃ cause, answer = .error (.attachFailure s.id cause))) := by
  have h := (Past.new id endpoint).run (t := t) calls w
  rw [hrun] at h
  refine ⟨h.isSome_connection_iff, h.countP_isConnect_le,
    fun e c hc => ⟨h.countP_isClose hc, fun sent later hlog => h.eq_nil_of_close hlog⟩,
    fun hs more => after_state_of_isTerminal _ hs more _, fun hs => ?_⟩
  refine ⟨s.outcome, connect_of_ne_init _ hs _, ?_, ?_, ?_, ?_⟩
  · rcases h.init_or_attached_or_terminal with hs' | hs' | hs'
    · exact absurd hs' hs
    · cases heq : s.state <;> simp_all [outcome, SessionState.isAttached]
    · cases heq : s.state <;> simp_all [outcome, SessionState.isAttached, SessionState.isTerminal]
  · intro heq
    simp [outcome, heq]
  · intro heq
    exact ⟨.refused s.endpoint.connectionName, by simp [outcome, heq]⟩
  · intro heq
    exact ⟨.notManageable s.endpoint.connectionName, by simp [outcome, heq]⟩

/-- A session whose peer takes the connection, given up after too many failures. -/
theorem life_of_given_up :
    ∃ s log w', after Transport.mute.logged [.connect, .isLive, .updateFailed 11, .close]
        (Session.new 7 (.localProcess 7)) ([], 0) = (s, log, w') ∧
      s.state = .detached ∧ log.countP (Traffic.isClose 0) = 1 ∧
      s.connect Transport.mute.logged (log, w') = (.error (.permanentDetach 7), s, log, w') := by
  refine ⟨_, _, _, rfl, rfl, ?_⟩
  obtain ⟨-, -, hclosed, -, hconnect⟩ := life Transport.mute
    (.refl (after Transport.mute.logged [.connect, .isLive, .updateFailed 11, .close]
      (Session.new 7 (.localProcess 7)) ([], 0)))
  obtain ⟨answer, hanswer, -, hdetached, -⟩ := hconnect (by decide)
  obtain rfl := hdetached rfl
  exact ⟨(hclosed (.localProcess 7) 0 (.head _)).1, hanswer⟩

end Session

end VmMonitor
