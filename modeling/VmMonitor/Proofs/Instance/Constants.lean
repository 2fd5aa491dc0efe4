import VmMonitor.Peer.Script
import VmMonitor.Proofs.Instance.UpdateErrors
import VmMonitor.Proofs.Peer.Learning

/-!
# The constants of a runtime

The system properties and the input arguments of an instance do not change. A reading asks for them
as long as it has not got both, keeps them, and does not ask again. The cache in between does: it has
learned their names, and a batch names whatever was learned for its object. Every later reading
fetches the uptime, which belongs to the same object, and so the constants travel again with every
update, and already with the rest of the reading that has taken them in.

Two things go together in this, the readings that hold the constants and the cache that knows their
names; `Gauges.Informed` says that the first never comes without the second.

## What is proved

* `Gauges.update_renews`, `Updated.renews` — **the invariant**, for one update and a run of them.
* `TrackedVm.constants_asked_again` — an instance that holds its constants goes on to hold them, and
  its updates go on to ask for them.
-/

namespace VmMonitor

open Exchange

variable {ω : Type} {t : Transport ω}

/-! ### One reading -/

namespace Gauges

/-- A first reading of the constants over a fresh cache teaches it the names. -/
def Teaches {σ : Type} (src : Source σ) (names : List String) : Prop :=
  Yields (fun y => y.1.values = []) (RuntimeInfo.fetch (Cache.source src))
    fun _ y => y.1.Knows .runtime names

section

variable {σ : Type} (src : Source σ) {names : List String}

theorem teaches_properties : Teaches src ["SystemProperties"] := by
  have hkeeps (r : Request) : Keeps (fun y => y.1.Knows .runtime ["SystemProperties"])
      ((Cache.source src).ask r) := Cache.ask_knows src r
  have hfirst : Yields (fun y => y.1.values = []) (Cache.source src).systemProperties
      fun _ y => y.1.Knows .runtime ["SystemProperties"] := by
    refine Yields.bind ?_ fun v => (Keeps.ofExcept _).yields
    intro y hy
    have hnone : y.1.values.get? .runtime = none := by rw [hy]; rfl
    exact Cache.lookup_teaches src "SystemProperties" y hnone
  refine hfirst.bind fun p => Keeps.yields ?_
  refine Keeps.bind ((hkeeps _).bind fun v => Keeps.ofExcept _) fun a => ?_
  exact fun _ h => h

theorem teaches_both (hsrc : src.Exact) : Teaches src ["SystemProperties", "InputArguments"] := by
  have hkeeps (r : Request) : Keeps (fun y => y.1.Knows .runtime ["SystemProperties"])
      ((Cache.source src).ask r) := Cache.ask_knows src r
  have hfirst : Yields (fun y => y.1.values = []) (Cache.source src).systemProperties
      fun _ y => y.1.Tight .runtime ∧ y.1.Knows .runtime ["SystemProperties"] := by
    refine Yields.bind ?_ fun v => (Keeps.ofExcept _).yields
    intro y hy
    have hnone : y.1.values.get? .runtime = none := by rw [hy]; rfl
    exact Cache.ask_teaches hsrc "SystemProperties" y (Cache.tight_of_none hnone)
  have hsecond : Yields (fun y => y.1.Tight .runtime ∧ y.1.Knows .runtime ["SystemProperties"])
      (Cache.source src).inputArguments
      fun _ y => y.1.Knows .runtime ["SystemProperties", "InputArguments"] := by
    refine Yields.bind ?_ fun v => (Keeps.ofExcept _).yields
    rintro y ⟨htight, hknows⟩ v y' hrun
    have hold := (hkeeps (.single .runtime "InputArguments")).yields y hknows v y' hrun
    have hnew := (Cache.ask_teaches hsrc "InputArguments" y htight v y' hrun).2
    intro n hn
    rcases List.mem_cons.1 hn with rfl | hn
    · exact hold _ (.head _)
    · exact hnew n hn
  refine hfirst.bind fun p => hsecond.bind fun a => Keeps.yields ?_
  exact fun _ h => h

/-- The constants are `info`. -/
def Holds (info : RuntimeInfo) (y : Gauges × σ) : Prop := y.1.runtime = some info

variable {src} {info : RuntimeInfo} {lockUsage : Bool}

theorem modifyMetrics_holds (f : Metrics → Metrics) :
    Keeps (Holds info) (modifyMetrics f : Exchange (Gauges × σ) Unit) := fun _ h => h

theorem beside_holds {α : Type} (x : Exchange σ α) : Keeps (Holds info) (x.beside Gauges) :=
  Keeps.beside x fun g : Gauges => g.runtime = some info

/-- Once they are taken in, the constants stay. -/
theorem sample_holds : Keeps (Holds info) (sample src lockUsage) := by
  have hlearn : Keeps (Holds info) (learnRuntime src) := by
    rintro ⟨g, s⟩ hg
    rwa [run_learnRuntime_of_some src hg]
  refine hlearn.bind fun _ => (beside_holds _).bind fun _ => (modifyMetrics_holds _).bind fun _ => ?_
  refine (beside_holds _).bind fun _ => (modifyMetrics_holds _).bind fun _ => ?_
  refine (beside_holds _).bind fun _ => (modifyMetrics_holds _).bind fun _ => ?_
  exact (beside_holds _).bind fun _ => modifyMetrics_holds _

/-- A reading keeps what each of its requests keeps. -/
theorem sample_keeps_behind {P : σ → Prop} (h : ∀ r, Keeps P (src.ask r)) :
    Keeps (fun y => P y.2) (sample src lockUsage) := by
  have hsrc : src.Alike (Same P) src := fun r => (h r).alike
  exact (hsrc.sample lockUsage).keeps_behind

/-- Without constants a reading first fetches them, and takes them in if it has got both. -/
theorem learnRuntime_cases (src : Source σ) {g : Gauges} (hg : g.runtime = none) (s : σ) :
    (∃ e s', (learnRuntime src).run (g, s) = (.error e, g, s')) ∨
      ∃ info s', (RuntimeInfo.fetch src).run s = (.ok info, s') ∧
        (learnRuntime src).run (g, s) =
          (.ok info.cpuInHundredNanos, { g with runtime := some info }, s') := by
  rw [run_learnRuntime_of_none src hg, run_bind, run_beside]
  rcases (RuntimeInfo.fetch src).run s with ⟨e | info, s'⟩
  · exact .inl ⟨e, s', rfl⟩
  · exact .inr ⟨info, s', rfl, rfl⟩

/-- A reading that has taken the constants in goes on as one that had them. -/
theorem run_sample_of_fetched {g : Gauges} {s s' : σ}
    (h : (learnRuntime src).run (g, s) =
      (.ok info.cpuInHundredNanos, { g with runtime := some info }, s')) :
    (sample src lockUsage).run (g, s) =
      (sample src lockUsage).run ({ g with runtime := some info }, s') := by
  have hagain : (learnRuntime src).run ({ g with runtime := some info }, s') =
      (.ok info.cpuInHundredNanos, { g with runtime := some info }, s') :=
    run_learnRuntime_of_some src rfl s'
  unfold sample
  rw [run_bind, run_bind, h, hagain]

end

section

variable {x : Logged ω} {info : RuntimeInfo} (i : ConnectionId)

/-- Reading the counters, the second of which is of the runtime, sends a batch for the runtime. -/
theorem readCounters_fetches (hundred : Bool) :
    Yields (Cache.Fresh .runtime x) (readCounters (Cache.source (t.logged.source i)) hundred)
      fun _ => Cache.Fetched .runtime x := by
  have hsrc : (Cache.source (t.logged.source i)).Alike (Same (Cache.Fetched .runtime x))
      (Cache.source (t.logged.source i)) := fun r => (Cache.ask_fetched i r).alike
  have hne : ObjectName.operatingSystem ≠ .runtime := by decide
  have hprocessors : Keeps (Cache.Fresh .runtime x)
      (Cache.source (t.logged.source i)).availableProcessors :=
    (Cache.ask_fresh i hne "AvailableProcessors").bind fun v => Keeps.ofExcept _
  have huptime : Yields (Cache.Fresh .runtime x) (Cache.source (t.logged.source i)).uptime
      fun _ => Cache.Fetched .runtime x :=
    (Cache.ask_of_fresh i "Uptime").bind fun v => (Keeps.ofExcept _).yields
  refine hprocessors.yields.bind fun _ => huptime.bind fun _ => Keeps.yields (Alike.keeps ?_)
  exact (hsrc.long _ _).bind fun _ => (hsrc (.query .garbageCollectors)).bind fun _ =>
    (hsrc.collections _ _).bind fun _ => (hsrc.usage _ _).bind fun _ =>
      (hsrc.usage _ _).bind fun _ => .pure _

/-- A reading that ends well has sent a batch for the runtime, also if it had the constants. -/
theorem sample_fetches (lockUsage : Bool) :
    Yields (fun y => Holds info y ∧ Cache.Fresh .runtime x y.2)
      (sample (Cache.source (t.logged.source i)) lockUsage)
      fun _ y => Cache.Fetched .runtime x y.2 := by
  have hsrc : (Cache.source (t.logged.source i)).Alike (Same (Cache.Fetched .runtime x))
      (Cache.source (t.logged.source i)) := fun r => (Cache.ask_fetched i r).alike
  have hlearn : Yields (fun y => Holds info y ∧ Cache.Fresh .runtime x y.2)
      (learnRuntime (Cache.source (t.logged.source i))) fun _ y => Cache.Fresh .runtime x y.2 := by
    rintro ⟨g, s⟩ ⟨hg, hfresh⟩ hundred y hrun
    rw [run_learnRuntime_of_some _ hg] at hrun
    cases hrun
    exact hfresh
  refine hlearn.bind fun hundred => ((readCounters_fetches i hundred).beside Gauges).bind fun _ => ?_
  refine Keeps.yields (Alike.keeps_behind ?_)
  exact (Source.Alike.modifyMetrics _).bind fun _ => ((hsrc.long _ _).beside _).bind fun _ =>
    (Source.Alike.modifyMetrics _).bind fun _ => ((hsrc.long _ _).beside _).bind fun _ =>
    (Source.Alike.modifyMetrics _).bind fun _ => ((hsrc.readDeadlocks _).beside _).bind fun _ =>
    Source.Alike.modifyMetrics _

end

end Gauges

/-! ### One update -/

namespace Session

/-- A liveness check sends no request. -/
theorem isLive_sends_no_request (s : Session) (x : Logged ω) :
    Sends (fun y => y.isRequest = false) x (s.isLive t.logged x).2.2 := by
  have happly (y : Logged ω) :=
    sends_apply t (P := fun y => y.isRequest = false) (fun _ => rfl) s .livenessLost y
  have hasked {c : Connection} {alive : Bool} {y : Logged ω}
      (ha : t.logged.isAlive c.id x = (alive, y)) : Sends (fun y => y.isRequest = false) x y :=
    ⟨_, Transport.logged_isAlive ha, by simp [Traffic.isRequest]⟩
  rcases s.isLive_cases t.logged x with ⟨_, _, -, ha, h⟩ | ⟨_, y, -, ha, h⟩ | ⟨-, h⟩
  · rw [h]
    exact hasked ha
  · rw [h]
    exact (hasked ha).trans (happly y)
  · rw [h]
    exact happly x

theorem isLive_connection (s : Session) (w : ω) :
    (s.isLive t w).2.1.connection = s.connection ∨ (s.isLive t w).2.1.connection = none := by
  rcases s.isLive_cases t w with ⟨_, _, -, -, h⟩ | ⟨_, w', -, -, h⟩ | ⟨-, h⟩
  · exact .inl (by rw [h])
  · rw [h]
    exact apply_connection t s .livenessLost w'
  · rw [h]
    exact apply_connection t s .livenessLost w

end Session

namespace Gauges

variable {names : List String} {g : Gauges} {s : Session} {info : RuntimeInfo}

/-- Whoever holds the constants has a cache that knows their names. -/
def Informed (names : List String) (g : Gauges) (s : Session) : Prop :=
  g.runtime.isSome → ∀ c, s.connection = some c → c.cache.Knows .runtime names

theorem Informed.of_connection (h : Informed names g s) {s' : Session}
    (hs' : s'.connection = s.connection ∨ s'.connection = none) : Informed names g s' := by
  intro hg c hc
  rcases hs' with hs' | hs'
  · exact h hg c (hs'.symm.trans hc)
  · simp [hs'] at hc

/-- A reading that takes the constants in teaches their names, and none forgets them. -/
theorem sample_teaches {i : ConnectionId} (hteaches : Teaches (t.logged.source i) names) {c : Cache}
    (hc : c.values = []) (hknows : g.runtime.isSome → c.Knows .runtime names) {lockUsage : Bool}
    {x y : Logged ω} {result : Except ConnectionError Unit} {g' : Gauges} {c' : Cache}
    (hrun : (sample (Cache.source (t.logged.source i)) lockUsage).run (g, c, x) =
      (result, g', c', y)) : g'.runtime.isSome → c'.Knows .runtime names := by
  intro hsome
  have hkeeps : Keeps (fun y => y.2.1.Knows .runtime names)
      (sample (Cache.source (t.logged.source i)) lockUsage) :=
    sample_keeps_behind fun r => Cache.ask_knows (t.logged.source i) r
  cases hg : g.runtime with
  | some info =>
    have hknows' := hkeeps (g, c, x) (hknows (by simp [hg]))
    rwa [hrun] at hknows'
  | none =>
    rcases learnRuntime_cases (Cache.source (t.logged.source i)) hg (c, x) with
      ⟨e, z, hlearn⟩ | ⟨info, z, hfetch, hlearn⟩
    · have hfailed : (sample (Cache.source (t.logged.source i)) lockUsage).run (g, c, x) =
          (.error e, g, z) := by
        unfold sample
        rw [run_bind, hlearn]
      obtain ⟨-, rfl, -⟩ := by simpa using hfailed.symm.trans hrun
      simp [hg] at hsome
    · rw [run_sample_of_fetched hlearn] at hrun
      have hknows' := hkeeps ({ g with runtime := some info }, z) (hteaches _ hc info z hfetch)
      rwa [hrun] at hknows'

theorem readSession_informed (hteaches : ∀ i, Teaches (t.logged.source i) names)
    (h : Informed names g s) {c : Connection} (hc : s.connection = some c) (x : Logged ω) :
    Informed names (g.readSession t.logged s x).2.1 (g.readSession t.logged s x).2.2.1 := by
  rcases hrun : (sample (Cache.source (t.logged.source c.id)) s.lockUsage).run (g, c.cache.flush, x)
    with ⟨result, g', cache, y⟩
  rw [readSession_of_run _ hc hrun]
  rintro hsome _ ⟨⟩
  have hknows (hg : g.runtime.isSome) : c.cache.flush.Knows .runtime names :=
    Cache.knows_flush.2 (h hg c hc)
  exact sample_teaches (hteaches c.id) rfl hknows hrun hsome

end Gauges

/-- An update of an attached instance that ends well has found somebody. -/
theorem Gauges.Course.passed {id : InstanceId} {g g' : Gauges} {s s' : SessionState}
    {result : Except MonitorError Unit} {sent : List Traffic}
    (h : Course id g s result g' s' sent) (hs : s.isAttached) (hok : result.isOk) :
    result = .ok () ∧ sent.any Traffic.isPass := by
  cases h with
  | idle hidle => simp [hs] at hidle
  | lost _ _ _ => cases hok
  | done _ hpass _ _ => exact ⟨rfl, hpass⟩
  | failed _ _ _ _ _ => cases hok

/-- What the update of an instance that holds its constants sends: batches for the runtime that name
them, and at least one if the update comes to its end. -/
structure UpdateRecord.Renews (names : List String) (u : UpdateRecord) : Prop where
  batches : ∀ e ∈ u.sent, e.Renews .runtime names
  exists_batch : u.passed → u.result = .ok () → ∃ e ∈ u.sent, e.IsBatch .runtime

namespace Gauges

variable {names : List String} {g : Gauges} {s : Session} {info : RuntimeInfo}

/-- A reading that has the constants keeps them, and asks for them again. -/
theorem readSession_renews (hg : g.runtime = some info) (h : Informed names g s) {c : Connection}
    (hc : s.connection = some c) (x : Logged ω) :
    (g.readSession t.logged s x).2.1.runtime = some info ∧
      ∃ l, (g.readSession t.logged s x).2.2.2.1 = x.1 ++ l ∧
        (∀ e ∈ l, e.Renews .runtime names) ∧
        ((g.readSession t.logged s x).1 = .ok () → ∃ e ∈ l, e.IsBatch .runtime) := by
  have hknows : c.cache.flush.Knows .runtime names := Cache.knows_flush.2 (h (by simp [hg]) c hc)
  have hfresh : Cache.Fresh .runtime x (c.cache.flush, x) := ⟨rfl, [], (List.append_nil _).symm⟩
  have hkept : Keeps (Holds info) (sample (Cache.source (t.logged.source c.id)) s.lockUsage) :=
    sample_holds
  have hkeeps : Keeps (fun y => Cache.Renewing .runtime names x y.2)
      (sample (Cache.source (t.logged.source c.id)) s.lockUsage) :=
    sample_keeps_behind fun r => Cache.ask_renewing c.id r
  rcases hrun : (sample (Cache.source (t.logged.source c.id)) s.lockUsage).run (g, c.cache.flush, x)
    with ⟨result, g', cache, y⟩
  have hholds := hkept (g, c.cache.flush, x) hg
  have hsent := hkeeps (g, c.cache.flush, x) ⟨hknows, .refl x⟩
  have hfetched := sample_fetches (t := t) c.id s.lockUsage (g, c.cache.flush, x) ⟨hg, hfresh⟩ ()
  rw [hrun] at hholds hsent hfetched
  rw [readSession_of_run _ hc hrun]
  obtain ⟨-, l, hl, hrenews⟩ := hsent
  refine ⟨hholds, l, hl, hrenews, ?_⟩
  rintro rfl
  obtain ⟨l', hl', hbatch⟩ := hfetched _ rfl
  obtain rfl : l = l' := List.append_cancel_left (hl.symm.trans hl')
  exact hbatch

/-- The event that ends an update sends no request after those of the reading. -/
theorem readSession_apply_renews (hg : g.runtime = some info) (h : Informed names g s)
    {c : Connection} (hc : s.connection = some c) {x x₁ x₂ : Logged ω}
    (hx₁ : x₁.1 = x.1 ++ [.isAlive c.id true]) {r : Except ConnectionError Unit} {g₁ : Gauges}
    {s₁ : Session} (hread : g.readSession t.logged s x₁ = (r, g₁, s₁, x₂)) (ev : SessionEvent) :
    g₁.runtime = some info ∧ ∃ sent, (s₁.apply t.logged ev x₂).2.1 = x.1 ++ sent ∧
      (∀ e ∈ sent, e.Renews .runtime names) ∧ (r = .ok () → ∃ e ∈ sent, e.IsBatch .runtime) := by
  have hreading := readSession_renews (t := t) hg h hc x₁
  rw [hread] at hreading
  obtain ⟨hg₁, l, hl, hrenews, hbatch⟩ := hreading
  obtain ⟨l', hl', hno⟩ := Session.sends_apply t (P := fun e => e.isRequest = false) (fun _ => rfl)
    s₁ ev x₂
  refine ⟨hg₁, .isAlive c.id true :: (l ++ l'), ?_, ?_, fun hok => ?_⟩
  · rw [hl', hl, hx₁]
    simp
  · intro e he
    rcases List.mem_cons.1 he with rfl | he
    · trivial
    · rcases List.mem_append.1 he with he | he
      · exact hrenews e he
      · exact Traffic.renews_of_not_isRequest (hno e he)
  · obtain ⟨e, he, hof⟩ := hbatch hok
    exact ⟨e, .tail _ (List.mem_append_left _ he), hof⟩

/-- **One update**: it leaves no cache without the names of constants that it has taken in, and if
the instance held its constants before, it holds them still and has asked for them again. -/
theorem update_renews {id : InstanceId} {g' : Gauges} {s' : Session} {x y : Logged ω}
    {result : Except MonitorError Unit} (hteaches : ∀ i, Teaches (t.logged.source i) names)
    (hinf : Informed names g s) (h : g.update t.logged id s x = (result, g', s', y)) :
    Informed names g' s' ∧ ∀ info, g.runtime = some info → g'.runtime = some info ∧
      ∃ sent, y.1 = x.1 ++ sent ∧ UpdateRecord.Renews names ⟨result, sent⟩ := by
  cases way_of_update _ h with
  | idle hs => exact ⟨hinf, fun info hg => ⟨hg, [], by simp, by simp, by simp [UpdateRecord.passed]⟩⟩
  | lost hs hlive =>
    obtain ⟨-, sent, hsent, hlost⟩ := Session.isLive_logged_of_false t hs hlive
    have hconnection := s.isLive_connection (t := t.logged) x
    obtain ⟨l, hl, hno⟩ := s.isLive_sends_no_request (t := t) x
    rw [hlive] at hconnection hl
    obtain rfl : sent = l := List.append_cancel_left (hsent.symm.trans hl)
    refine ⟨hinf.of_connection hconnection, fun info hg => ⟨hg, sent, hsent, ?_, ?_⟩⟩
    · exact fun e he => Traffic.renews_of_not_isRequest (hno e he)
    · intro hpassed
      obtain ⟨e, he, hpass⟩ := List.any_eq_true.1 hpassed
      simp [(hlost e he).1] at hpass
  | @done _ s₁ _ x₁ x₂ _ hs hlive hread happly =>
    obtain ⟨c, hc, hx₁⟩ := Session.isLive_logged_of_true t hlive
    have hinf₁ := readSession_informed hteaches hinf hc x₁
    have hconnection := Session.apply_connection t.logged s₁ .updateSucceeded x₂
    rw [hread] at hinf₁
    rw [happly] at hconnection
    refine ⟨hinf₁.of_connection hconnection, fun info hg => ?_⟩
    obtain ⟨hg₁, sent, hsent, hrenews, hbatch⟩ :=
      readSession_apply_renews hg hinf hc hx₁ hread .updateSucceeded
    rw [happly] at hsent
    exact ⟨hg₁, sent, hsent, hrenews, fun _ _ => hbatch rfl⟩
  | @failed g₁ s₁ _ x₁ x₂ _ _ hs hlive hread happly =>
    obtain ⟨c, hc, hx₁⟩ := Session.isLive_logged_of_true t hlive
    have hinf₁ := readSession_informed hteaches hinf hc x₁
    have hconnection :=
      Session.apply_connection t.logged s₁ (.updateFailed (g₁.metrics.updateErrors + 1)) x₂
    rw [hread] at hinf₁
    rw [happly] at hconnection
    refine ⟨hinf₁.of_connection hconnection, fun info hg => ?_⟩
    obtain ⟨hg₁, sent, hsent, hrenews, -⟩ := readSession_apply_renews hg hinf hc hx₁ hread
      (.updateFailed (g₁.metrics.updateErrors + 1))
    rw [happly] at hsent
    refine ⟨hg₁, sent, hsent, hrenews, fun _ hok => ?_⟩
    cases hok

end Gauges

/-! ### Runs of updates -/

namespace TrackedVm

variable {names : List String}

/-- Whoever holds the constants has a session whose cache knows their names. -/
def Informed (names : List String) (vm : TrackedVm) (r : Registry) : Prop :=
  ∀ s, r.session? vm.session = some s → Gauges.Informed names vm.gauges s

theorem update_renews (hteaches : ∀ i, Gauges.Teaches (t.logged.source i) names)
    {vm vm' : TrackedVm} {world world' : World (Logged ω)} {u : UpdateRecord}
    (hinf : vm.Informed names world.registry) (h : vm.update t.logged world = (u.result, vm', world'))
    (hsent : world'.peers.1 = world.peers.1 ++ u.sent) :
    vm'.Informed names world'.registry ∧ ∀ info, vm.gauges.runtime = some info →
      vm'.gauges.runtime = some info ∧ u.Renews names := by
  obtain ⟨result, sent⟩ := u
  cases hs : world.registry.session? vm.session with
  | none =>
    rw [update_of_no_session _ hs] at h
    cases h
    obtain rfl : sent = [] := by simpa using hsent
    exact ⟨hinf, fun info hg => ⟨hg, by simp, by simp [UpdateRecord.passed]⟩⟩
  | some s =>
    rcases hu : vm.gauges.update t.logged vm.id s world.peers with ⟨r, g', s', y⟩
    obtain ⟨hinf', hrenews⟩ := Gauges.update_renews hteaches (hinf s hs) hu
    rw [update_of_session _ hs hu] at h
    cases h
    refine ⟨fun s₁ hs₁ => ?_, fun info hg => ?_⟩
    · obtain rfl : s' = s₁ := Option.some.inj ((Registry.session?_put_self hs).symm.trans hs₁)
      exact hinf'
    · obtain ⟨hg', l, hl, hl'⟩ := hrenews info hg
      obtain rfl : sent = l := List.append_cancel_left (hsent.symm.trans hl)
      exact ⟨hg', hl'⟩

end TrackedVm

/-- **The invariant** over a run of updates. -/
theorem Updated.renews {names : List String} {x y : TrackedVm × World (Logged ω)}
    {us : List UpdateRecord} (hteaches : ∀ i, Gauges.Teaches (t.logged.source i) names)
    (h : Updated t x us y) (hx : x.1.Informed names x.2.registry) :
    y.1.Informed names y.2.registry ∧ ∀ info, x.1.gauges.runtime = some info →
      y.1.gauges.runtime = some info ∧ ∀ u ∈ us, u.Renews names := by
  induction h with
  | none => exact ⟨hx, fun info hg => ⟨hg, by simp⟩⟩
  | @update us vm vm' world world' u _ hu hsent ih =>
    obtain ⟨hinf, hus⟩ := ih
    obtain ⟨hinf', hrenews⟩ := TrackedVm.update_renews hteaches hinf hu hsent
    refine ⟨hinf', fun info hg => ?_⟩
    obtain ⟨hvm, hus⟩ := hus info hg
    obtain ⟨hvm', hrenews⟩ := hrenews info hvm
    refine ⟨hvm', fun u' hu' => ?_⟩
    rcases List.mem_append.1 hu' with hu' | hu'
    · exact hus u' hu'
    · obtain rfl := List.mem_singleton.1 hu'
      exact hrenews
  | elsewhere _ hsame ih =>
    obtain ⟨hinf, hus⟩ := ih
    exact ⟨fun s hs => hinf s (hsame.symm.trans hs), hus⟩

/-! ### The constants on the wire -/

/-- A peer that answers all that an update asks for. -/
def Script.talkative : Script where
  registered := [.threading]
  values := [
    (.runtime, [("SystemProperties", .properties []), ("InputArguments", .texts []),
      ("Uptime", .long 1)]),
    (.operatingSystem, [("AvailableProcessors", .long 1), ("ProcessCpuTime", .long 1)]),
    (.memory, [("HeapMemoryUsage", .usage {}), ("NonHeapMemoryUsage", .usage {})]),
    (.classLoading, [("TotalLoadedClassCount", .long 1)]),
    (.threading, [("ThreadCount", .long 1)])]
  results := [("findMonitorDeadlockedThreads", .null)]

/-- The names of a batch for the runtime. -/
def Call.runtimeBatch? : Call → Option (List String)
  | .ask (.batch o ns) => if o = .runtime then some ns else none
  | _ => none

/-- A scripted peer answers what it is asked. -/
theorem Script.exact_transport : Script.transport.Exact := by
  intro i o ns peer m peer' hrun n hn
  change Script.ask (.batch o ns) peer = _ at hrun
  unfold Script.ask at hrun
  split at hrun
  · cases hrun
  · cases hrun
    obtain ⟨v, hv⟩ := (Table.has_ofList n _).1 hn
    obtain ⟨n', hn', hvalue⟩ := List.mem_filterMap.1 hv
    obtain ⟨v', -, heq⟩ := Option.map_eq_some_iff.1 hvalue
    cases heq
    exact hn'

namespace TrackedVm

/-- **The constants are asked for again.** An instance was updated any number of times, over any
peer, since it held nothing, and has taken the constants of its runtime in. In any run of updates
from there it holds the same constants, and every batch for the runtime names the system properties
again, and the input arguments as well unless the peer has told them unasked; an update that comes to
its end sends such a batch. -/
theorem constants_asked_again {x : TrackedVm × World (Logged ω)} {us later : List UpdateRecord}
    {vm vm' : TrackedVm} {world world' : World (Logged ω)} {info : RuntimeInfo}
    (hx : x.1.gauges.runtime = none) (h : Updated t x us (vm, world))
    (hinfo : vm.gauges.runtime = some info) (hlater : Updated t (vm, world) later (vm', world')) :
    vm'.gauges.runtime = some info ∧ ∀ u ∈ later,
      (∀ i ns a, .ask i (.batch .runtime ns) a ∈ u.sent →
        "SystemProperties" ∈ ns ∧ (t.Exact → "InputArguments" ∈ ns)) ∧
      (u.passed → u.result = .ok () → ∃ i ns a, .ask i (.batch .runtime ns) a ∈ u.sent) := by
  have hempty (names : List String) : x.1.Informed names x.2.registry := by
    intro s _ hsome
    simp [hx] at hsome
  have hrun {names : List String} (hteaches : ∀ i, Gauges.Teaches (t.logged.source i) names) :=
    (hlater.renews hteaches (h.renews hteaches (hempty names)).1).2 info hinfo
  obtain ⟨hvm', hproperties⟩ := hrun fun i => Gauges.teaches_properties (t.logged.source i)
  refine ⟨hvm', fun u hu => ⟨fun i ns a he => ⟨?_, fun hexact => ?_⟩, fun hpassed hok => ?_⟩⟩
  · exact (hproperties u hu).batches _ he rfl _ (.head _)
  · obtain ⟨-, hboth⟩ := hrun fun i => Gauges.teaches_both (t.logged.source i) (hexact.logged i)
    exact (hboth u hu).batches _ he rfl _ (.tail _ (.head _))
  · obtain ⟨_, he, i, ns, a, rfl⟩ := (hproperties u hu).exists_batch hpassed hok
    exact ⟨i, ns, a, he⟩

/-- An instance behind a talkative peer, since it is tracked. -/
def chatted : TrackedVm × World (Logged Script) :=
  attach Script.transport.logged ⟨7, "", true, .localProcess 7⟩ ⟨{}, ([], Script.talkative)⟩

/-- The next update of such an instance asks for both constants again. -/
theorem constants_asked_again_by_next_update :
    ∃ us info u vm' world', Updated Script.transport
        (settle Script.transport.logged ⟨7, "", true, .localProcess 7⟩ ⟨{}, ([], Script.talkative)⟩) us
        chatted ∧
      chatted.1.gauges.runtime = some info ∧
      Updated Script.transport chatted [u] (vm', world') ∧
      ∃ i ns a, .ask i (.batch .runtime ns) a ∈ u.sent ∧ "SystemProperties" ∈ ns ∧
        "InputArguments" ∈ ns := by
  obtain ⟨us, -, hus⟩ := updated_attach Script.transport ⟨7, "", true, .localProcess 7⟩
    ⟨{}, ([], Script.talkative)⟩
  obtain ⟨hsome, hattached, hwell⟩ : chatted.1.gauges.runtime.isSome ∧
      (chatted.1.state chatted.2.registry).isAttached ∧
      (chatted.1.update Script.transport.logged chatted.2).1.isOk := by decide +kernel
  obtain ⟨info, hinfo⟩ := Option.isSome_iff_exists.1 hsome
  rcases hu : chatted.1.update Script.transport.logged chatted.2 with ⟨result, vm', world'⟩
  obtain ⟨sent, hsent, -, hcourse⟩ := update_course Script.transport hu
  rw [hu] at hwell
  have hnext : Updated Script.transport chatted [⟨result, sent⟩] (vm', world') :=
    Updated.none.update (u := ⟨result, sent⟩) hu hsent
  obtain ⟨hok, hpassed⟩ := hcourse.passed hattached hwell
  obtain ⟨-, hlater⟩ := constants_asked_again rfl hus hinfo hnext
  obtain ⟨hnames, hbatch⟩ := hlater _ (.head _)
  obtain ⟨i, ns, a, he⟩ := hbatch hpassed hok
  obtain ⟨hproperties, harguments⟩ := hnames i ns a he
  exact ⟨us, info, _, vm', world', hus, hinfo, hnext, i, ns, a, he, hproperties,
    harguments Script.exact_transport⟩

/-- The constants are asked for again with the rest of the reading that has taken them in. -/
theorem constants_asked_again_at_once :
    chatted.1.gauges.runtime.isSome ∧
      chatted.2.peers.2.log.filterMap Call.runtimeBatch? =
        [["SystemProperties"], ["InputArguments", "SystemProperties"],
          ["InputArguments", "SystemProperties", "Uptime"]] := by
  decide +kernel

end TrackedVm

end VmMonitor
