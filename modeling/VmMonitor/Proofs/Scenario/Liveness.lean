import VmMonitor.Proofs.Scenario.Routing

/-!
# Who is found alive

A connection learns of the death of its instance only when it is asked. A liveness check that finds
nobody is remembered, and no check on the same connection finds anybody after it; nothing else that
happens to the replay is remembered. For an instance that vanishes this makes no difference, since it
does not come back. A sample that is marked dead can be followed by one that is not, and if no check
falls into its cycle, the next one finds somebody again.

## What is proved

* `Replay.isAlive_after_iff` — **the answer to a check** after any run, by what the checks before it met.
* `Replay.stays_dead` — all that follows for a connection that was opened: a death that was noticed, or
  that lasts, is final.
* `Replay.unnoticed_death` — a death that nobody noticed and that did not last.
-/

namespace VmMonitor

namespace ScenarioInstance

/-- Whether anybody lives at an instance in a cycle. -/
def isInhabited (cycle : Nat) (i : ScenarioInstance) : Bool :=
  i.isVisible cycle && !(i.sampleAt cycle).dead

variable {i : ScenarioInstance} {start gone now : Nat}

/-- Who has vanished does not come back. -/
theorem not_isVisible_of_le (hstart : i.isVisible start) (hgone : i.isVisible gone = false)
    (hafter : start ≤ gone) (hnow : gone ≤ now) : i.isVisible now = false := by
  simp only [isVisible, Bool.and_eq_true, decide_eq_true_eq] at hstart
  have happeared : i.appearsAt ≤ gone := Nat.le_trans hstart.1 hafter
  simp only [isVisible, happeared, decide_true, Bool.true_and] at hgone
  cases hend : i.vanishesAt with
  | none => simp [hend] at hgone
  | some last =>
    simp only [hend, Option.all_some, decide_eq_false_iff_not, Nat.not_lt] at hgone
    simp only [isVisible, hend, Option.all_some, Bool.and_eq_false_iff, decide_eq_false_iff_not]
    omega

/-- The last sample repeats. -/
theorem sampleAt_of_last (hlast : i.appearsAt + i.samples.length ≤ gone + 1) (hnow : gone ≤ now) :
    i.sampleAt now = i.sampleAt gone := by
  have hindex {n : Nat} (hn : gone ≤ n) :
      min (n - i.appearsAt) (i.samples.length - 1) = i.samples.length - 1 := by omega
  simp only [sampleAt, hindex hnow, hindex (Nat.le_refl gone)]

end ScenarioInstance

namespace Replay

/-! ### What the checks have met -/

/-- Every liveness check on `c` among the events met somebody at `i`. -/
def AllMet (c : ConnectionId) (i : ScenarioInstance) (events : List Event) (r : Replay) : Prop :=
  ∀ earlier later, events = earlier ++ .isAlive c :: later →
    i.isInhabited (after earlier r).cycle

section

variable {c : ConnectionId} {i : ScenarioInstance} {alive : Bool} {r r₀ : Replay}

theorem after_append (events events' : List Event) (r : Replay) :
    after (events ++ events') r = after events' (after events r) := List.foldl_append

theorem allMet_nil : AllMet c i [] r := by
  intro earlier later h
  cases earlier <;> cases h

theorem allMet_cons {event : Event} {events : List Event} : AllMet c i (event :: events) r ↔
    (event = .isAlive c → i.isInhabited r.cycle) ∧ AllMet c i events (event.run r) := by
  constructor
  · intro h
    refine ⟨fun hevent => h [] events (by rw [hevent, List.nil_append]), fun earlier later hsplit => ?_⟩
    exact h (event :: earlier) later (by rw [hsplit, List.cons_append])
  · rintro ⟨hhead, htail⟩ earlier later hsplit
    cases earlier with
    | nil =>
      obtain ⟨rfl, rfl⟩ := List.cons.inj hsplit
      exact hhead rfl
    | cons first earlier =>
      obtain ⟨rfl, rfl⟩ := List.cons.inj hsplit
      exact htail earlier later rfl

/-- **One step**: nobody but a check that meets nobody makes a difference to an open connection. -/
theorem stays_run_iff (h : Stays c i alive r) {event : Event} (hopen : event ≠ .close c) :
    ∃ alive', Stays c i alive' (event.run r) ∧
      (alive' = true ↔ alive = true ∧ (event = .isAlive c → i.isInhabited r.cycle)) := by
  by_cases hcheck : event = .isAlive c
  · subst hcheck
    have hline : r.connections[c]? = some ⟨i, alive, false⟩ := h
    refine ⟨livesIn ⟨i, alive, false⟩ r.cycle, ?_, ?_⟩
    · simp [Stays, Event.run, isAlive_eq, hline, checked]
    · simp [livesIn, ScenarioInstance.isInhabited, and_assoc]
  · obtain ⟨alive', h', -, hsame⟩ := stays_run h hopen
    refine ⟨alive', h', ?_⟩
    simp [hsame hcheck, hcheck]

/-- **Any run**: an open connection holds on to its instance exactly if all checks met somebody. -/
theorem stays_after_iff (h : Stays c i alive r) {events : List Event} (hopen : .close c ∉ events) :
    ∃ alive', Stays c i alive' (after events r) ∧
      (alive' = true ↔ alive = true ∧ AllMet c i events r) := by
  induction events generalizing r alive with
  | nil => exact ⟨alive, h, by simp [allMet_nil]⟩
  | cons event events ih =>
    obtain ⟨hevent, hevents⟩ := List.ne_and_not_mem_of_not_mem_cons hopen
    obtain ⟨alive₁, h₁, hiff₁⟩ := stays_run_iff h hevent.symm
    obtain ⟨alive₂, h₂, hiff₂⟩ := ih h₁ hevents
    refine ⟨alive₂, h₂, ?_⟩
    rw [hiff₂, hiff₁, allMet_cons, and_assoc]

/-! ### Connections that were closed -/

/-- The connection `c` was closed. -/
def Shut (c : ConnectionId) (r : Replay) : Prop := ∃ x, r.connections[c]? = some x ∧ x.closed

theorem shut_run (h : Shut c r) (event : Event) : Shut c (event.run r) := by
  obtain ⟨x, hx, hclosed⟩ := h
  cases event with
  | tick => exact ⟨x, hx, hclosed⟩
  | connect endpoint => exact ⟨x, getElem?_connect hx, hclosed⟩
  | isAlive c' =>
    by_cases hc : c' = c
    · exact ⟨x, by simp [Event.run, isAlive_eq, hc, hx, checked, hclosed], hclosed⟩
    · exact ⟨x, by simp [Event.run, isAlive_eq, hc, hx], hclosed⟩
  | close c' =>
    by_cases hc : c' = c
    · exact ⟨{ x with closed := true }, by simp [Event.run, close_eq, hc, hx], rfl⟩
    · exact ⟨x, by simp [Event.run, close_eq, hc, hx], hclosed⟩
  | ask c' request => exact ⟨x, by rw [Event.run, (ask_quiet c' request r).connections, hx], hclosed⟩

theorem shut_after (h : Shut c r) (events : List Event) : Shut c (after events r) := by
  induction events generalizing r with
  | nil => exact h
  | cons event events ih => exact ih (shut_run h event)

theorem isAlive_of_shut (h : Shut c r) : (r.isAlive c).1 = false := by
  obtain ⟨x, hx, hclosed⟩ := h
  simp [isAlive_eq, hx, livesIn, hclosed]

theorem shut_of_mem (h : Stays c i alive r) {events : List Event} (hclose : .close c ∈ events) :
    Shut c (after events r) := by
  obtain ⟨earlier, later, rfl, hfirst⟩ := List.eq_append_cons_of_mem hclose
  obtain ⟨alive', h', -⟩ := stays_after h hfirst
  have hline : (after earlier r).connections[c]? = some ⟨i, alive', false⟩ := h'
  rw [after_append]
  exact shut_after ⟨⟨i, alive', true⟩, by simp [Event.run, close_eq, hline], rfl⟩ later

/-! ### The answer to a check -/

/-- **The answer to a check** finds somebody exactly if the connection was not closed, all checks before
this one met somebody, and somebody is there now. -/
theorem isAlive_after_iff (h : Stays c i alive r) (events : List Event) :
    ((after events r).isAlive c).1 = true ↔ alive = true ∧ .close c ∉ events ∧
      AllMet c i events r ∧ i.isInhabited (after events r).cycle := by
  by_cases hclose : .close c ∈ events
  · simp [isAlive_of_shut (shut_of_mem h hclose), hclose]
  · obtain ⟨alive', h', hiff⟩ := stays_after_iff h hclose
    rw [isAlive_of_stays h']
    simp only [Bool.and_eq_true, hiff, hclose, not_false_eq_true, true_and,
      ScenarioInstance.isInhabited, and_assoc]

/-- What the checks on a connection find that was opened to `i` in `r₀`, whatever happens to the replay
afterwards. -/
structure StaysDead (c : ConnectionId) (i : ScenarioInstance) (r₀ : Replay) : Prop where
  /-- Somebody is found just if somebody lives there, and was there whenever it was looked. -/
  isAlive_iff (events : List Event) : ((after events r₀).isAlive c).1 = true ↔
    i.connect = .ok ∧ .close c ∉ events ∧ AllMet c i events r₀ ∧
      i.isInhabited (after events r₀).cycle
  /-- Where one check finds nobody, no later one finds anybody. -/
  never_again (earlier later : List Event) : ((after earlier r₀).isAlive c).1 = false →
    ((after (earlier ++ .isAlive c :: later) r₀).isAlive c).1 = false
  /-- A check in a dead cycle finds nobody, and neither does any after it. -/
  noticed (earlier later : List Event) : (i.sampleAt (after earlier r₀).cycle).dead →
    ((after earlier r₀).isAlive c).1 = false ∧
      ((after (earlier ++ .isAlive c :: later) r₀).isAlive c).1 = false
  /-- Nobody is found from the cycle on in which the instance is gone, whether it was looked or not. -/
  vanished (events : List Event) (gone : Nat) : r₀.cycle ≤ gone → i.isVisible gone = false →
    gone ≤ (after events r₀).cycle → ((after events r₀).isAlive c).1 = false
  /-- The same goes for a death after which nothing else is reported. -/
  lasting (events : List Event) (gone : Nat) : (i.sampleAt gone).dead →
    i.appearsAt + i.samples.length ≤ gone + 1 → gone ≤ (after events r₀).cycle →
    ((after events r₀).isAlive c).1 = false

/-- A connection that was opened is one to the instance that was looked for and found. -/
theorem stays_of_opened {endpoint : Endpoint} (hopened : r.connect endpoint = (.ok c, r₀)) :
    ∃ i, r.target? endpoint = some i ∧ i.isVisible r₀.cycle ∧
      Stays c i (decide (i.connect = .ok)) r₀ := by
  cases hmeet : r.meet endpoint with
  | error e => cases hopened.symm.trans (connect_of_error hmeet)
  | ok met =>
    obtain ⟨i, alive⟩ := met
    cases hopened.symm.trans (connect_of_ok hmeet)
    cases htarget : r.target? endpoint with
    | none => simp [meet, htarget] at hmeet
    | some j =>
      have hfound : j.address = endpoint ∧ j.isVisible r.cycle := by
        simpa using List.find?_some htarget
      simp only [meet, htarget] at hmeet
      cases hconnect : j.connect <;> simp only [hconnect] at hmeet <;> cases hmeet
      all_goals exact ⟨_, rfl, hfound.2, by simp [Stays, hconnect]⟩

/-- What is known of an open connection to a visible instance. -/
theorem staysDead_of_stays (hvisible : i.isVisible r₀.cycle)
    (h : Stays c i (decide (i.connect = .ok)) r₀) : StaysDead c i r₀ := by
  have hiff (events : List Event) := isAlive_after_iff h events
  have hagain (earlier later : List Event) (hdead : ((after earlier r₀).isAlive c).1 = false) :
      ((after (earlier ++ .isAlive c :: later) r₀).isAlive c).1 = false := by
    rw [← Bool.not_eq_true, hiff] at hdead ⊢
    rintro ⟨halive, hopen, hmet, -⟩
    refine hdead ⟨halive, fun hclose => hopen (List.mem_append_left _ hclose), ?_,
      hmet earlier later rfl⟩
    intro earlier' later' hsplit
    exact hmet earlier' (later' ++ .isAlive c :: later) (by simp [hsplit])
  have hnobody (events : List Event)
      (hempty : i.isInhabited (after events r₀).cycle = false) :
      ((after events r₀).isAlive c).1 = false := by
    rw [← Bool.not_eq_true, hiff, hempty]
    simp
  constructor
  case isAlive_iff =>
    intro events
    rw [hiff, decide_eq_true_iff]
  case never_again => exact hagain
  case noticed =>
    intro earlier later hdead
    have hnow := hnobody earlier (by simp [ScenarioInstance.isInhabited, hdead])
    exact ⟨hnow, hagain earlier later hnow⟩
  case vanished =>
    intro events gone hafter hgone hnow
    have hnever := ScenarioInstance.not_isVisible_of_le hvisible hgone hafter hnow
    exact hnobody events (by simp [ScenarioInstance.isInhabited, hnever])
  case lasting =>
    intro events gone hdead hlast hnow
    have hsame := ScenarioInstance.sampleAt_of_last hlast hnow
    exact hnobody events (by simp [ScenarioInstance.isInhabited, hsame, hdead])

/-- **A dead process stays dead** once it was noticed. A connection that was opened is one to the first
visible instance at its endpoint. From then on, whatever happens to the replay and in whatever order, a
check finds somebody exactly if the instance lets itself be attached to, the connection was not closed,
somebody lives there in the current cycle, and somebody did in the cycle of every check before. So no
check finds anybody after one that found nobody. An instance that has vanished is never found again, and
neither is one whose last sample is marked dead; any other sample that is marked dead ends it for good
just if a check falls into its cycle. -/
theorem stays_dead {endpoint : Endpoint} (hopened : r.connect endpoint = (.ok c, r₀)) :
    ∃ i, r.target? endpoint = some i ∧ StaysDead c i r₀ := by
  obtain ⟨i, htarget, hvisible, h⟩ := stays_of_opened hopened
  exact ⟨i, htarget, staysDead_of_stays hvisible h⟩

/-- The scenario of the statements below: an instance that is dead in the second of three cycles. -/
def lapsed : ScenarioInstance := { pid := 1, samples := [{}, { dead := true }, {}] }

/-- Whoever looks in the second cycle finds nobody, and then nobody in the third. -/
theorem stays_dead_of_lapsed : ∃ r₀, (new ⟨none, [lapsed]⟩).connect (.localProcess 1) = (.ok 0, r₀) ∧
    (lapsed.sampleAt (after [.tick] r₀).cycle).dead ∧
    ((after [.tick, .isAlive 0, .tick] r₀).isAlive 0).1 = false := by
  obtain ⟨r₀, hopened⟩ : ∃ r₀, (new ⟨none, [lapsed]⟩).connect (.localProcess 1) = (.ok 0, r₀) :=
    ⟨_, rfl⟩
  obtain ⟨i, htarget, hdead⟩ := stays_dead hopened
  refine ⟨r₀, hopened, ?_⟩
  cases hopened
  have hi : i = lapsed := by
    have hfound : (new ⟨none, [lapsed]⟩).target? (.localProcess 1) = some lapsed := by decide
    exact Option.some.inj (htarget.symm.trans hfound)
  subst hi
  exact ⟨by decide, (hdead.noticed [.tick] [.tick] (by decide)).2⟩

/-- **A death that nobody noticed**: whoever looks at the same instance in the third cycle only finds
somebody again. -/
theorem unnoticed_death : ∃ (s : Scenario) (i : ScenarioInstance) (r₀ : Replay) (events : List Event)
    (gone : Nat), s.Accepted ∧ (new s).target? i.descriptor.endpoint = some i ∧
    (new s).connect i.descriptor.endpoint = (.ok 0, r₀) ∧ .close 0 ∉ events ∧
    r₀.cycle ≤ gone ∧ gone ≤ (after events r₀).cycle ∧ (i.sampleAt gone).dead ∧
    ((after events r₀).isAlive 0).1 = true := by
  refine ⟨⟨none, [lapsed]⟩, lapsed, _, [.tick, .tick], 1, ?_, by decide, rfl, by simp, by decide,
    by decide, by decide, by decide⟩
  exact ⟨"instances:\n- pid: 1\n  samples:\n  - uptime_ms: 0\n  - dead: true\n  - uptime_ms: 0\n",
    .inr (by decide +kernel)⟩

end

end Replay

end VmMonitor
