import VmMonitor.Proofs.Scenario
import VmMonitor.Proofs.Scenario.CachedReplay
import VmMonitor.Proofs.Scenario.Twins
import VmMonitor.Scenario.Text

/-!
# Where an endpoint leads

Instances are told apart by their process ids, and a scenario with one of them twice is refused. They
are reached by their endpoints, and those may be anything: an instance may be given an endpoint that
another one has, by its own words or for want of others. Whoever opens an endpoint gets the first
visible instance that is reached there. A connection stays with the instance that it was opened to,
whatever happens to the replay afterwards.

## What is proved

* `Replay.stays_run`, `Replay.stays_after` — **the invariant**: a connection keeps its instance in every
  step, and so in every run.
* `Replay.reports` — such a connection answers as its instance does in the current cycle.
* `Replay.endpoint_routing` — the endpoint of a visible instance leads to the first visible one that has
  it, which is the instance itself unless one in front of it has the same endpoint.
* `Replay.endpoint_of_two` — an instance of a scenario that is accepted and whose endpoint leads to
  another one.
-/

namespace VmMonitor

/-- The scenario is what some text was read as. -/
def Scenario.Accepted (s : Scenario) : Prop := ∃ text, ofJson text = .ok s ∨ ofYaml text = .ok s

/-- What is accepted has no process id twice. -/
theorem Scenario.Accepted.nodup {s : Scenario} (h : s.Accepted) :
    (s.instances.map (·.pid)).Nodup := by
  have hvalid : ∃ s', Scenario.validate s' = .ok s := by
    obtain ⟨text, h | h⟩ := h
    · simp only [ofJson] at h
      split at h
      · exact ⟨_, h⟩
      · cases h
    · simp only [ofYaml] at h
      split at h
      · exact ⟨_, h⟩
      · cases h
  obtain ⟨s', h⟩ := hvalid
  obtain rfl := eq_of_validate h
  exact validate_eq_ok_iff.1 h

namespace Replay

/-! ### What happens to a replay -/

/-- What anybody can do to a replay. -/
inductive Event
  | tick
  | connect (endpoint : Endpoint)
  | isAlive (c : ConnectionId)
  | close (c : ConnectionId)
  | ask (c : ConnectionId) (request : Request)

/-- The replay behind an event. -/
def Event.run (r : Replay) : Event → Replay
  | tick => r.tick
  | connect endpoint => (r.connect endpoint).2
  | isAlive c => (r.isAlive c).2
  | close c => r.close c
  | ask c request => ((transport.ask c request).run r).2

/-- The replay behind events that follow each other. -/
def after (events : List Event) (r : Replay) : Replay := events.foldl Event.run r

/-- The connection `c` is open and stays with `i`; `alive` says that nobody was missed there yet. -/
def Stays (c : ConnectionId) (i : ScenarioInstance) (alive : Bool) (r : Replay) : Prop :=
  r.connections[c]? = some ⟨i, alive, false⟩

section

variable {c : ConnectionId} {i : ScenarioInstance} {alive : Bool} {r : Replay}

theorem ask_quiet (c : ConnectionId) (request : Request) (r : Replay) :
    Quiet r ((transport.ask c request).run r).2 := by
  change Quiet r (ask c request r).2
  simp only [ask]
  cases r.connections[c]? <;> exact ⟨rfl, rfl, rfl⟩

/-- **One step**: unless the connection is closed, it stays with its instance, and nobody but a
liveness check on it can miss anybody there. -/
theorem stays_run (h : Stays c i alive r) {event : Event} (hopen : event ≠ .close c) :
    ∃ alive', Stays c i alive' (event.run r) ∧ (alive' = true → alive = true) ∧
      (event ≠ .isAlive c → alive' = alive) := by
  have hline : r.connections[c]? = some ⟨i, alive, false⟩ := h
  have hkept {r' : Replay} (h' : r'.connections[c]? = r.connections[c]?) :
      ∃ alive', Stays c i alive' r' ∧ (alive' = true → alive = true) ∧
        (event ≠ .isAlive c → alive' = alive) := ⟨alive, h'.trans h, id, fun _ => rfl⟩
  cases event with
  | tick => exact hkept rfl
  | connect endpoint => exact hkept ((getElem?_connect hline).trans hline.symm)
  | isAlive c' =>
    by_cases hc : c' = c
    · subst hc
      refine ⟨livesIn ⟨i, alive, false⟩ r.cycle, ?_, fun h => ?_, fun hne => absurd rfl hne⟩
      · simp [Stays, Event.run, isAlive_eq, hline, checked]
      · simp only [livesIn, Bool.and_eq_true] at h
        exact h.1.1.2
    · exact hkept (by simp [Event.run, isAlive_eq, hc])
  | close c' =>
    have hc : c' ≠ c := fun hc => hopen (hc ▸ rfl)
    exact hkept (by simp [Event.run, close_eq, hc])
  | ask c' request => exact hkept (by rw [Event.run, (ask_quiet c' request r).connections])

/-- **Any run**: a connection that is not closed stays with its instance. -/
theorem stays_after (h : Stays c i alive r) {events : List Event} (hopen : .close c ∉ events) :
    ∃ alive', Stays c i alive' (after events r) ∧ (alive' = true → alive = true) ∧
      (.isAlive c ∉ events → alive' = alive) := by
  induction events generalizing r alive with
  | nil => exact ⟨alive, h, id, fun _ => rfl⟩
  | cons event events ih =>
    obtain ⟨hevent, hevents⟩ := List.ne_and_not_mem_of_not_mem_cons hopen
    obtain ⟨alive₁, h₁, hless₁, hsame₁⟩ := stays_run h hevent.symm
    obtain ⟨alive₂, h₂, hless₂, hsame₂⟩ := ih h₁ hevents
    refine ⟨alive₂, h₂, hless₁ ∘ hless₂, fun hchecks => ?_⟩
    obtain ⟨hcheck, hchecks⟩ := List.ne_and_not_mem_of_not_mem_cons hchecks
    rw [hsame₂ hchecks, hsame₁ hcheck.symm]

end

/-! ### What a connection reports -/

/-- Whoever asks at `c` hears of `i` as it is in the current cycle: that it is gone if it is not
visible, nothing but failures if its sample wants that, and else what is in the sample. -/
structure Reports (c : ConnectionId) (i : ScenarioInstance) (r : Replay) : Prop where
  gone (request : Request) : i.isVisible r.cycle = false →
    ((transport.ask c request).run r).1 = .error (.io ("process " ++ toString i.pid ++ " is gone"))
  failing (request : Request) : i.isVisible r.cycle → (i.sampleAt r.cycle).fail →
    ((transport.ask c request).run r).1 =
      .error (.io ("request to " ++ toString i.pid ++ " failed"))
  single (o : ObjectName) (n : String) : i.isVisible r.cycle → (i.sampleAt r.cycle).fail = false →
    ((transport.ask c (.single o n)).run r).1 = readValue i (i.sampleAt r.cycle) o n
  batch (o : ObjectName) (ns : List String) : i.isVisible r.cycle →
    (i.sampleAt r.cycle).fail = false →
    ((transport.ask c (.batch o ns)).run r).1 =
      (readValues i (i.sampleAt r.cycle) o ns).map Table.ofList
  query (pattern : ObjectName) : i.isVisible r.cycle → (i.sampleAt r.cycle).fail = false →
    ((transport.ask c (.query pattern)).run r).1 =
      .ok ((registeredNames (i.sampleAt r.cycle)).filter pattern.isMatch)
  invoke (o : ObjectName) (operation : String) (params : List AttributeValue) :
    i.isVisible r.cycle → (i.sampleAt r.cycle).fail = false →
    ((transport.ask c (.invoke o operation params)).run r).1 =
      Replay.invoke (i.sampleAt r.cycle) o operation params
  /-- Nobody is said to live there who is not visible or dead. -/
  alive : (r.isAlive c).1 = true → i.isVisible r.cycle ∧ (i.sampleAt r.cycle).dead = false

section

variable {c : ConnectionId} {i : ScenarioInstance} {alive : Bool} {r : Replay}

theorem isAlive_of_stays (h : Stays c i alive r) : (r.isAlive c).1 =
    (alive && i.isVisible r.cycle && !(i.sampleAt r.cycle).dead) := by
  have hline : r.connections[c]? = some ⟨i, alive, false⟩ := h
  simp [isAlive_eq, hline, livesIn]

/-- A connection that stays with an instance reports on it. -/
theorem reports (h : Stays c i alive r) : Reports c i r := by
  have hask (request : Request) : ((transport.ask c request).run r).1 =
      answer ⟨i, alive, false⟩ r.cycle request := congrArg Prod.fst (run_ask h request)
  have hsample (hvisible : i.isVisible r.cycle) (hfail : (i.sampleAt r.cycle).fail = false) :
      current ⟨i, alive, false⟩ r.cycle = .ok (i.sampleAt r.cycle) := by
    simp [current, hvisible, hfail]
  constructor
  case gone =>
    intro request hgone
    have hcurrent : current ⟨i, alive, false⟩ r.cycle =
        .error (.io ("process " ++ toString i.pid ++ " is gone")) := by simp [current, hgone]
    rw [hask]
    cases request <;> simp only [answer, hcurrent] <;> rfl
  case failing =>
    intro request hvisible hfail
    have hcurrent : current ⟨i, alive, false⟩ r.cycle =
        .error (.io ("request to " ++ toString i.pid ++ " failed")) := by
      simp [current, hvisible, hfail]
    rw [hask]
    cases request <;> simp only [answer, hcurrent] <;> rfl
  case single =>
    intro o n hvisible hfail
    rw [hask, answer, hsample hvisible hfail]
    rfl
  case batch =>
    intro o ns hvisible hfail
    rw [hask, answer, hsample hvisible hfail]
    change readValues i (i.sampleAt r.cycle) o ns >>= (fun es => pure (Table.ofList es)) = _
    cases readValues i (i.sampleAt r.cycle) o ns <;> rfl
  case query =>
    intro pattern hvisible hfail
    rw [hask, answer, hsample hvisible hfail]
    rfl
  case invoke =>
    intro o operation params hvisible hfail
    rw [hask, answer, hsample hvisible hfail]
    rfl
  case alive =>
    intro halive
    rw [isAlive_of_stays h] at halive
    simp only [Bool.and_eq_true, Bool.not_eq_true'] at halive
    exact ⟨halive.1.2, halive.2⟩

end

/-! ### Where an endpoint leads -/

/-- Whoever opens `endpoint` in `r` gets `i`: what comes of it is what the instance wants to come of
it, and a connection reports on the instance from then on, unless it is closed. The first liveness
check finds somebody exactly if somebody lives there. -/
structure Leads (r : Replay) (endpoint : Endpoint) (i : ScenarioInstance) : Prop where
  refused : i.connect = .refused →
    (r.connect endpoint).1 = .error (.refused endpoint.connectionName)
  failed : i.connect = .error →
    (r.connect endpoint).1 = .error (.io ("attach to " ++ endpoint.connectionName ++ " failed"))
  opened : i.connect = .ok ∨ i.connect = .dead → ∃ c, (r.connect endpoint).1 = .ok c ∧
    ∀ events, .close c ∉ events →
      Reports c i (after events (r.connect endpoint).2) ∧
      (i.connect = .dead → ((after events (r.connect endpoint).2).isAlive c).1 = false) ∧
      (i.connect = .ok → .isAlive c ∉ events →
        ((after events (r.connect endpoint).2).isAlive c).1 =
          (i.isVisible (after events (r.connect endpoint).2).cycle &&
            !(i.sampleAt (after events (r.connect endpoint).2).cycle).dead))

section

variable {s : Scenario} {r : Replay} {i : ScenarioInstance} {endpoint : Endpoint}

/-- Where an instance is looked for and found, the endpoint leads to it. -/
theorem leads_of_target? (h : r.target? endpoint = some i) : r.Leads endpoint i := by
  constructor
  case refused =>
    intro hc
    have hmeet : r.meet endpoint = .error (.refused endpoint.connectionName) := by
      simp [meet, h, hc]
    exact congrArg Prod.fst (connect_of_error hmeet)
  case failed =>
    intro hc
    have hmeet : r.meet endpoint =
        .error (.io ("attach to " ++ endpoint.connectionName ++ " failed")) := by
      simp [meet, h, hc]
    exact congrArg Prod.fst (connect_of_error hmeet)
  case opened =>
    intro hc
    have hmeet : r.meet endpoint = .ok (i, decide (i.connect = .ok)) := by
      rcases hc with hc | hc <;> simp [meet, h, hc]
    have hconnect : r.connect endpoint = _ := connect_of_ok hmeet
    rw [hconnect]
    refine ⟨r.connections.length, rfl, fun events hopen => ?_⟩
    have hstays : Stays r.connections.length i (decide (i.connect = .ok))
        { r with
          connections := r.connections ++ [⟨i, decide (i.connect = .ok), false⟩]
          stats := { r.stats with connects := r.stats.connects + 1 } } := by simp [Stays]
    obtain ⟨alive, hafter, hless, hsame⟩ := stays_after hstays hopen
    refine ⟨reports hafter, fun hdead => ?_, fun hok hunchecked => ?_⟩
    · have hmissed : alive = false := by
        rw [← Bool.not_eq_true]
        exact fun halive => by simpa [hdead] using hless halive
      rw [isAlive_of_stays hafter, hmissed, Bool.false_and, Bool.false_and]
    · rw [isAlive_of_stays hafter, hsame hunchecked, hok]
      simp

/-- The first visible instance that is reached at an endpoint is looked for. -/
theorem target?_eq (endpoint : Endpoint) (r : Replay) :
    r.target? endpoint = (r.scenario.visible r.cycle).find? (·.address = endpoint) := by
  rw [target?, Scenario.visible, List.find?_filter]
  congr 1
  funext i
  simp [and_comm]

/-- An instance is the first one that is reached where it is, if no other one in front of it is reached
there. -/
theorem find?_address_eq_some_iff {before after : List ScenarioInstance}
    (h : ((before ++ i :: after).map (·.pid)).Nodup) :
    (before ++ i :: after).find? (·.address = i.address) = some i ↔
      ∀ b ∈ before, b.address ≠ i.address := by
  rw [List.find?_append]
  cases hfind : before.find? (·.address = i.address) with
  | none => simpa using hfind
  | some b =>
    have hb := List.mem_of_find?_eq_some hfind
    have haddress : b.address = i.address := by simpa using List.find?_some hfind
    have hne : b ≠ i := by
      rintro rfl
      rw [List.map_append, List.nodup_append] at h
      exact h.2.2 b.pid (List.mem_map_of_mem hb) b.pid (by simp) rfl
    simpa [hne] using ⟨b, hb, haddress⟩

/-- **Routing.** Take a scenario that was accepted, and an instance that is visible in the current cycle
of its replay. The endpoint of its descriptor leads to the first visible instance that has it: what
comes of opening it is what that instance wants to come of it, and a connection that is opened reports
that instance's samples, properties and visibility in every cycle from then on. This is the instance
itself exactly if no visible one in front of it has the same endpoint. -/
theorem endpoint_routing (hs : s.Accepted) (hr : r.scenario = s) {before after : List ScenarioInstance}
    (hi : s.visible r.cycle = before ++ i :: after) :
    ∃ j, (s.visible r.cycle).find? (·.address = i.descriptor.endpoint) = some j ∧
      r.Leads i.descriptor.endpoint j ∧
      (j = i ↔ ∀ b ∈ before, b.address ≠ i.descriptor.endpoint) := by
  have hnodup : ((before ++ i :: after).map (·.pid)).Nodup := by
    rw [← hi]
    exact (List.filter_sublist.map _).nodup hs.nodup
  have hsome : ((s.visible r.cycle).find? (·.address = i.descriptor.endpoint)).isSome := by
    rw [List.find?_isSome, hi]
    exact ⟨i, by simp, by simp [ScenarioInstance.descriptor]⟩
  obtain ⟨j, hj⟩ := Option.isSome_iff_exists.1 hsome
  refine ⟨j, hj, leads_of_target? (by rw [target?_eq, hr, hj]), ?_⟩
  change j = i ↔ ∀ b ∈ before, b.address ≠ i.address
  rw [← find?_address_eq_some_iff hnodup, ← hi]
  exact ⟨fun h => h ▸ hj, fun h => Option.some.inj (hj.symm.trans h)⟩

/-- An instance that is reached where another one was before it. -/
theorem endpoint_routing_of_successor :
    let i : ScenarioInstance :=
      { pid := 2, appearsAt := 1, endpoint := some (.localProcess 1), connect := .dead }
    let s : Scenario := ⟨none, [{ pid := 1, vanishesAt := some 1 }, i]⟩
    s.Accepted ∧ s.visible 1 = [i] ∧ (new s).tick.Leads (.localProcess 1) i := by
  intro i s
  have hs : s.Accepted :=
    ⟨"instances:\n- pid: 1\n  vanishes_at: 1\n" ++
      "- pid: 2\n  appears_at: 1\n  connect: dead\n  endpoint: !local\n    pid: 1\n",
      .inr (by decide +kernel)⟩
  have hi : s.visible (new s).tick.cycle = [] ++ i :: [] := by decide
  obtain ⟨j, -, hleads, hself⟩ := endpoint_routing hs rfl hi
  rw [hself.2 (by simp)] at hleads
  exact ⟨hs, hi, hleads⟩

/-- **No endpoint of its own**: of two instances that are accepted, the second one refuses connections.
Its endpoint leads to the first one, which does not, and reports on that one. -/
theorem endpoint_of_two : ∃ (s : Scenario) (i j : ScenarioInstance), s.Accepted ∧
    s.instances = [j, i] ∧ i ∈ s.visible 0 ∧ i.connect = .refused ∧
    ((new s).connect i.descriptor.endpoint).1 = .ok 0 ∧
    Reports 0 j ((new s).connect i.descriptor.endpoint).2 ∧
    ¬(new s).Leads i.descriptor.endpoint i := by
  let i : ScenarioInstance := { pid := 2, connect := .refused, endpoint := some (.localProcess 1) }
  let j : ScenarioInstance := { pid := 1 }
  refine ⟨⟨none, [j, i]⟩, i, j, ?_, rfl, ?_, rfl, rfl, ?_, fun h => ?_⟩
  · exact ⟨"instances:\n- pid: 1\n- pid: 2\n  connect: refused\n  endpoint: !local\n    pid: 1\n",
      .inr (by decide +kernel)⟩
  · decide
  · exact reports (show Stays 0 j true _ from rfl)
  · exact nomatch h.refused rfl

end

end Replay

end VmMonitor
