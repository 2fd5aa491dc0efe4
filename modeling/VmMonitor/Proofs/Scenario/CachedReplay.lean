import VmMonitor.Proofs.Peer.Cache
import VmMonitor.Scenario.Replay

/-!
# Reading a replay through a cache

Within one cycle a replay tells the values of one sample, in single reads as in batches. A cache
around one of its connections therefore tells the same, if it is flushed whenever the clock has
moved.

## What is proved

* `Replay.tells` — an open connection tells the readable attributes of its instance in the cycle.
* `Replay.Cached.fresh` — **the invariant**: between a flush and the next tick the cache is coherent
  with the cycle.
* `Replay.cached_transparent` — reading through the cache is reading the connection.
-/

namespace VmMonitor.Replay

/-! ### What a sample tells -/

section

variable {i : ScenarioInstance} {s : Sample} {o : ObjectName}

/-- Whether an object is one of the platform's does not depend on the attribute. -/
theorem platformValue_eq_none {n : String} (h : platformValue i s o n = none) (n' : String) :
    platformValue i s o n' = none := by
  unfold platformValue at h ⊢
  split_ifs at h ⊢
  rfl

/-- Nothing can be read of an object that is not registered. -/
theorem readValue_of_notRegistered {n : String} {o' : ObjectName}
    (h : readValue i s o n = .error (.notRegistered o')) (n' : String) (v : AttributeValue) :
    readValue i s o n' ≠ .ok v := by
  simp only [readValue] at h ⊢
  split_ifs at h with hbroken
  · simp at h
  cases hp : platformValue i s o n with
  | some v => cases v <;> simp [hp] at h
  | none =>
    cases hg : (collectorName? o).bind fun gc => s.gc.find? fun g => g.name = gc with
    | some g => cases hv : collectorValue g n <;> simp [hp, hg, hv] at h
    | none =>
      rw [platformValue_eq_none hp n']
      split_ifs <;> simp

/-- A batch has what can be read of it, and fails only for an object of which nothing can. -/
theorem readValues_spec (i : ScenarioInstance) (s : Sample) (o : ObjectName) (ns : List String) :
    match readValues i s o ns with
    | .ok es => ∀ n v, (n, v) ∈ es ↔ n ∈ ns ∧ readValue i s o n = .ok v
    | .error _ => ∀ n v, readValue i s o n ≠ .ok v := by
  induction ns with
  | nil => simp [readValues]
  | cons n ns ih =>
    -- A name that cannot be read changes nothing, unless its object is not registered.
    have hskip (hn : ∀ v, readValue i s o n ≠ .ok v) :
        match readValues i s o ns with
        | .ok es => ∀ n' v, (n', v) ∈ es ↔ n' ∈ n :: ns ∧ readValue i s o n' = .ok v
        | .error _ => ∀ n v, readValue i s o n ≠ .ok v := by
      revert ih
      cases readValues i s o ns with
      | error e => exact id
      | ok es =>
        intro ih n' v
        rw [ih, List.mem_cons, or_and_right]
        refine ⟨.inr, fun h => h.resolve_left ?_⟩
        rintro ⟨rfl, hv⟩
        exact hn v hv
    cases hread : readValue i s o n with
    | ok v =>
      simp only [readValues, hread]
      revert ih
      cases readValues i s o ns with
      | error e => exact id
      | ok es =>
        intro ih n' v'
        simp only [List.mem_cons, Prod.mk.injEq, ih]
        constructor
        · rintro (⟨rfl, rfl⟩ | ⟨hn, h⟩)
          · exact ⟨.inl rfl, hread⟩
          · exact ⟨.inr hn, h⟩
        · rintro ⟨rfl | hn, h⟩
          · exact .inl ⟨rfl, by simpa [hread] using h.symm⟩
          · exact .inr ⟨hn, h⟩
    | error e =>
      cases e with
      | notRegistered o' =>
        simp only [readValues, hread]
        exact readValue_of_notRegistered hread
      | _ =>
        simp only [readValues, hread]
        exact hskip (by simp [hread])

end

/-! ### What a connection tells -/

/-- What can be read from an instance in a cycle. -/
def readable (i : ScenarioInstance) (cycle : Nat) : Readable := fun o n =>
  match current ⟨i, true, false⟩ cycle with
  | .ok s => (readValue i s o n).toOption
  | .error _ => none

/-- The clock stands at `cycle`, and `c` is an open connection to `i`. -/
def Holds (c : ConnectionId) (i : ScenarioInstance) (cycle : Nat) (r : Replay) : Prop :=
  r.cycle = cycle ∧ ∃ x, r.connections[c]? = some x ∧ x.target = i ∧ x.closed = false

theorem toOption_eq_some_iff {ε α : Type} {x : Except ε α} {a : α} :
    x.toOption = some a ↔ x = .ok a := by
  cases x <;> simp [Except.toOption]

section

variable {c : ConnectionId} {r : Replay} {x : ReplayConnection}

theorem run_ask (hx : r.connections[c]? = some x) (request : Request) :
    ((transport.source c).ask request).run r =
      (answer x r.cycle request, { r with stats := ReplayStats.count r.stats request }) := by
  change ask c request r = _
  simp [ask, hx]

theorem current_of_open (hopen : x.closed = false) (cycle : Nat) :
    current x cycle = current ⟨x.target, true, false⟩ cycle := by
  simp [current, hopen]

end

/-- An open connection tells what can be read from its instance. -/
theorem tells (c : ConnectionId) (i : ScenarioInstance) (cycle : Nat) :
    (transport.source c).Tells (Holds c i cycle) (readable i cycle) where
  keeps request r := by
    rintro ⟨rfl, x, hx, rfl, hopen⟩
    rw [run_ask hx]
    exact ⟨rfl, x, hx, rfl, hopen⟩
  single := by
    rintro r ⟨rfl, x, hx, rfl, hopen⟩ o n v
    rw [run_ask hx, readable]
    simp only [answer, current_of_open hopen]
    cases current ⟨x.target, true, false⟩ r.cycle with
    | error e => simp [bind, Except.bind]
    | ok s => exact toOption_eq_some_iff.symm
  batch := by
    rintro r o ns m ⟨rfl, x, hx, rfl, hopen⟩ hm n v
    rw [run_ask hx] at hm
    simp only [answer, current_of_open hopen] at hm
    rw [readable]
    cases hs : current ⟨x.target, true, false⟩ r.cycle with
    | error e => simp [hs, bind, Except.bind] at hm
    | ok s =>
      have hspec := readValues_spec x.target s o ns
      cases hes : readValues x.target s o ns with
      | error e => simp [hs, hes, bind, Except.bind] at hm
      | ok es =>
        simp only [hes] at hspec
        obtain rfl : Table.ofList es = m := by
          simpa [hs, hes, bind, Except.bind, pure, Except.pure] using hm
        simp only [toOption_eq_some_iff]
        refine (Table.mem_ofList fun n v v' hv hv' => ?_).trans (hspec n v)
        exact Except.ok.inj (((hspec n v).1 hv).2.symm.trans ((hspec n v').1 hv').2)
  failed := by
    rintro r o ns e ⟨rfl, x, hx, rfl, hopen⟩ he n
    rw [run_ask hx] at he
    simp only [answer, current_of_open hopen] at he
    rw [readable]
    cases hs : current ⟨x.target, true, false⟩ r.cycle with
    | error e => rfl
    | ok s =>
      have hspec := readValues_spec x.target s o ns
      cases hes : readValues x.target s o ns with
      | ok es => simp [hs, hes, bind, Except.bind, pure, Except.pure] at he
      | error e =>
        simp only [hes] at hspec
        cases hv : readValue x.target s o n with
        | ok v => exact absurd hv (hspec n v)
        | error e => simp [hv, Except.toOption]

/-! ### Runs -/

/-- The connection `c` that was opened at `endpoint`, with the cache around it, after any reads,
flushes and ticks; `stale` says that the clock has moved since the last flush, which is when nothing
is read. Others may do what they like with the replay in the same cycle, but not close `c`. -/
inductive Cached (endpoint : Endpoint) (c : ConnectionId) : Bool → Cache → Replay → Prop
  | opened {r r' : Replay} : r.connect endpoint = (.ok c, r') → Cached endpoint c false {} r'
  | tick {stale : Bool} {cache : Cache} {r : Replay} : Cached endpoint c stale cache r →
      Cached endpoint c true cache r.tick
  | flush {stale : Bool} {cache : Cache} {r : Replay} : Cached endpoint c stale cache r →
      Cached endpoint c false cache.flush r
  | read {cache : Cache} {r : Replay} (request : Request) : Cached endpoint c false cache r →
      Cached endpoint c false (((Cache.source (transport.source c)).ask request).run (cache, r)).2.1
        (((Cache.source (transport.source c)).ask request).run (cache, r)).2.2
  | elsewhere {stale : Bool} {cache : Cache} {r r' : Replay} : Cached endpoint c stale cache r →
      r'.cycle = r.cycle → (r'.connections[c]?.map fun x => (x.target, x.closed)) =
        (r.connections[c]?.map fun x => (x.target, x.closed)) →
      Cached endpoint c stale cache r'

/-- What was just opened is open. -/
theorem holds_of_connect {endpoint : Endpoint} {c : ConnectionId} {r r' : Replay}
    (h : r.connect endpoint = (.ok c, r')) : ∃ i, Holds c i r'.cycle r' := by
  simp only [connect] at h
  split at h
  · simp at h
  · rename_i target alive _
    simp only [Prod.mk.injEq, Except.ok.injEq] at h
    obtain ⟨rfl, rfl⟩ := h
    exact ⟨target, rfl, ⟨target, alive, false⟩, by simp, rfl, rfl⟩

namespace Cached

variable {endpoint : Endpoint} {c : ConnectionId} {stale : Bool} {cache : Cache} {r : Replay}

/-- **The invariant**: the connection stays open to its instance, and unless the clock has moved since
the last flush, what is cached can be read in this cycle. -/
theorem fresh (h : Cached endpoint c stale cache r) :
    ∃ i, Holds c i r.cycle r ∧ (stale = false → Cache.Coherent (readable i r.cycle) cache) := by
  induction h with
  | opened hopen =>
    obtain ⟨i, hx⟩ := holds_of_connect hopen
    exact ⟨i, hx, fun _ => Cache.coherent_empty⟩
  | tick _ ih =>
    obtain ⟨i, ⟨-, hx⟩, -⟩ := ih
    exact ⟨i, ⟨rfl, hx⟩, nofun⟩
  | flush _ ih =>
    obtain ⟨i, hx, -⟩ := ih
    exact ⟨i, hx, fun _ => Cache.coherent_flush _⟩
  | @read cache r request _ ih =>
    obtain ⟨i, hx, hc⟩ := ih
    obtain ⟨hc', hx'⟩ := (tells c i r.cycle).cached.keeps request (cache, r) ⟨hc rfl, hx⟩
    rw [hx'.1]
    exact ⟨i, hx', fun _ => hc'⟩
  | elsewhere _ hcycle hsame ih =>
    obtain ⟨i, ⟨-, x, hx, htarget, hopen⟩, hc⟩ := ih
    rw [hx, Option.map_some, Option.map_eq_some_iff] at hsame
    obtain ⟨x', hx', heq⟩ := hsame
    obtain ⟨htarget', hopen'⟩ := Prod.mk.inj heq
    rw [hcycle]
    exact ⟨i, ⟨hcycle, x', hx', htarget'.trans htarget, hopen'.trans hopen⟩, hc⟩

end Cached

/-- **Transparency**: whatever was read through the cache before, and whatever the scenario is, an
attribute read through it now has the value that the connection itself gives for it, if it gives
one; and several attributes read at once are those of them that the connection gives a value for,
with these values. -/
theorem cached_transparent {endpoint : Endpoint} {c : ConnectionId} {cache : Cache} {r : Replay}
    (h : Cached endpoint c false cache r) :
    (∀ o n v, (((Cache.source (transport.source c)).ask (.single o n)).run (cache, r)).1 = .ok v ↔
      (((transport.source c).ask (.single o n)).run r).1 = .ok v) ∧
    ∀ o ns m, (((Cache.source (transport.source c)).ask (.batch o ns)).run (cache, r)).1 = .ok m →
      ∀ n v, (n, v) ∈ m ↔ n ∈ ns ∧ (((transport.source c).ask (.single o n)).run r).1 = .ok v := by
  obtain ⟨i, hx, hc⟩ := h.fresh
  have hraw := (tells c i r.cycle).single hx
  have hcached := (tells c i r.cycle).cached
  refine ⟨fun o n v => ?_, fun o ns m hm n v => ?_⟩
  · exact (hcached.single (s := (cache, r)) ⟨hc rfl, hx⟩ o n v).trans (hraw o n v).symm
  · rw [hcached.batch (s := (cache, r)) ⟨hc rfl, hx⟩ hm n v, hraw]

/-- An attribute of an instance in its second cycle, after a batch in the first one. -/
theorem cached_transparent_in_second_cycle :
    ∃ cache r, Cached (.localProcess 7) 0 false cache r ∧
      (((Cache.source (transport.source 0)).ask (.single .runtime "Uptime")).run (cache, r)).1 =
        .ok (.long 9) := by
  have hopen : Cached (.localProcess 7) 0 false {} _ := .opened (r := new ⟨none,
    [{ pid := 7, samples := [{ uptimeMs := 4 }, { uptimeMs := 9 }] }]⟩) rfl
  have hrun := ((hopen.read (.batch .runtime ["Uptime", "InputArguments"])).tick).flush
  exact ⟨_, _, hrun, ((cached_transparent hrun).1 _ _ _).2 rfl⟩

end VmMonitor.Replay
