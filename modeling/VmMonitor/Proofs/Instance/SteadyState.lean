import VmMonitor.Proofs.Instance.Constants
import VmMonitor.Proofs.Peer.Polling

/-!
# The cost of an update in the long run

The first update of an instance learns what there is to read: it asks for one attribute after the
other, and each of them that was not asked for before costs a batch of its own. When it has come to its
end, all names are learned. From then on the first read of an object fetches whatever the update is
going to read of it, and the object costs one batch. Other readings over the same cache may teach it
more names, which makes the batches longer, but not more; and the values that they leave behind are
dropped when the next update begins.

## What is proved

* `Tours` — what each read of an update does to what is known of the reads before it, and
  `Tours.sample`, what this comes to for all of them. It is used twice: for what the first update
  teaches, and for what a later one sends.
* `TrackedVm.Ready` — **the invariant**: an attached instance whose cache is trained.
* `TrackedVm.steady_cost` — every update of such an instance sends the same requests.
-/

namespace VmMonitor

open Exchange

/-! ### A full reading, read by read -/

/-- What an update asks for apart from attributes. -/
def operationsOf (lockUsage : Bool) : List Request :=
  .query .garbageCollectors ::
    ((if lockUsage then [.invoke .threading "findDeadlockedThreads" []] else []) ++
      [.invoke .threading "findMonitorDeadlockedThreads" []])

section

variable {σ : Type}

/-- After reads of the attributes `rs` and the other requests `qs` the state is in `I rs qs`, and each
request of an update is answered and leads on. -/
structure Tours (src : Source σ) (collectors : List ObjectName) (lockUsage : Bool)
    (I : List (ObjectName × String) → List Request → σ → Prop) : Prop where
  read : ∀ {o n k}, Polled collectors o n k → ∀ rs qs, Completes (I rs qs) (src.ask (.single o n))
    fun v s => k.Fits v ∧ I (rs ++ [(o, n)]) qs s
  list : ∀ rs qs, Completes (I rs qs) src.garbageCollectors fun cs s =>
    (∀ o, o ∈ cs ↔ o ∈ collectors) ∧ I rs (qs ++ [.query .garbageCollectors]) s
  locks : lockUsage → ∀ rs qs, Completes (I rs qs) src.deadlockedThreads? fun _ =>
    I rs (qs ++ [.invoke .threading "findDeadlockedThreads" []])
  monitors : ∀ rs qs, Completes (I rs qs) src.monitorDeadlockedThreads? fun _ =>
    I rs (qs ++ [.invoke .threading "findMonitorDeadlockedThreads" []])

/-- The attributes of a collector. -/
def collectorReads (o : ObjectName) : List (ObjectName × String) :=
  [(o, "CollectionTime"), (o, "CollectionCount")]

/-- The attributes of a set of counters. -/
def counterReads (cs : List ObjectName) : List (ObjectName × String) :=
  [(.operatingSystem, "AvailableProcessors"), (.runtime, "Uptime"),
    (.operatingSystem, "ProcessCpuTime")] ++ cs.flatMap collectorReads ++
    [(.memory, "HeapMemoryUsage")] ++ [(.memory, "NonHeapMemoryUsage")]

namespace Tours

variable {src : Source σ} {collectors : List ObjectName} {lockUsage : Bool}
  {I : List (ObjectName × String) → List Request → σ → Prop}

theorem long (h : Tours src collectors lockUsage I) {o : ObjectName} {n : String}
    (hpolled : Polled collectors o n .number) (rs : List (ObjectName × String)) (qs : List Request) :
    Completes (I rs qs) (src.long o n) fun _ => I (rs ++ [(o, n)]) qs := by
  refine (h.read hpolled rs qs).bind fun v => Completes.of_fact ?_
  rintro ⟨i, rfl⟩
  exact Completes.ofExcept (a := i) rfl

theorem usage (h : Tours src collectors lockUsage I) {o : ObjectName} {n : String}
    (hpolled : Polled collectors o n .usage) (rs : List (ObjectName × String)) (qs : List Request) :
    Completes (I rs qs) (src.usage o n) fun _ => I (rs ++ [(o, n)]) qs := by
  refine (h.read hpolled rs qs).bind fun v => Completes.of_fact ?_
  rintro ⟨u, rfl⟩
  exact Completes.ofExcept (a := u) rfl

theorem collections (h : Tours src collectors lockUsage I) {cs : List ObjectName}
    (hcs : ∀ o ∈ cs, o ∈ collectors) (totals : Int × Int) (rs : List (ObjectName × String))
    (qs : List Request) :
    Completes (I rs qs) (Gauges.collections src cs totals) fun _ =>
      I (rs ++ cs.flatMap collectorReads) qs := by
  induction cs generalizing totals rs with
  | nil =>
    rw [List.flatMap_nil, List.append_nil]
    exact Completes.pure (Q := fun _ => I rs qs) totals
  | cons o cs ih =>
    have ho := hcs o (.head _)
    refine (h.long (.collectionTime ho) rs qs).bind fun t => ?_
    refine (h.long (.collectionCount ho) _ qs).bind fun n => ?_
    have hrest := ih (fun o' ho' => hcs o' (.tail _ ho'))
      (Counter.add totals.1 t, Counter.add totals.2 n)
      (rs ++ [(o, "CollectionTime")] ++ [(o, "CollectionCount")])
    simpa only [List.flatMap_cons, collectorReads, List.append_assoc, List.cons_append,
      List.nil_append] using hrest

/-- The counters are read with one query for the collectors. -/
theorem readCounters (h : Tours src collectors lockUsage I) (hundred : Bool) :
    Completes (I [] []) (Gauges.readCounters src hundred) fun _ s =>
      ∃ cs, (∀ o, o ∈ cs ↔ o ∈ collectors) ∧
        I (counterReads cs) [.query .garbageCollectors] s := by
  refine (h.long .availableProcessors _ _).bind fun processors => ?_
  refine (h.long .uptime _ _).bind fun uptime => ?_
  refine (h.long .processCpuTime _ _).bind fun cpu => ?_
  refine (h.list _ _).bind fun cs => Completes.of_fact fun hcs => ?_
  refine (h.collections (fun o ho => (hcs o).1 ho) (0, 0) _ _).bind fun totals => ?_
  refine (h.usage .heap _ _).bind fun heap => ?_
  refine (h.usage .nonHeap _ _).bind fun nonHeap => ?_
  exact fun s hs => ⟨_, s, rfl, cs, hcs, hs⟩

theorem readDeadlocks (h : Tours src collectors lockUsage I) (rs : List (ObjectName × String)) :
    Completes (I rs [.query .garbageCollectors]) (Gauges.readDeadlocks src lockUsage) fun _ =>
      I rs (operationsOf lockUsage) := by
  cases lockUsage with
  | true =>
    refine (h.locks rfl rs _).bind fun ofLocks => (h.monitors rs _).bind fun ofMonitors => ?_
    exact fun s hs => ⟨_, s, rfl, hs⟩
  | false =>
    refine (Completes.pure (Q := fun _ => I rs _) none).bind fun ofLocks => ?_
    refine (h.monitors rs _).bind fun ofMonitors => ?_
    exact fun s hs => ⟨_, s, rfl, hs⟩

end Tours

/-- All that is polled, and nothing else. -/
theorem mem_counterReads_append {collectors cs : List ObjectName}
    (hcs : ∀ o, o ∈ cs ↔ o ∈ collectors) (o : ObjectName) (n : String) :
    (o, n) ∈ counterReads cs ++ [(.classLoading, "TotalLoadedClassCount")] ++
      [(.threading, "ThreadCount")] ↔ ∃ k, Polled collectors o n k := by
  constructor
  · intro h
    simp only [counterReads, collectorReads, List.mem_append, List.mem_flatMap, List.mem_cons,
      List.not_mem_nil, or_false, Prod.mk.injEq] at h
    rcases h with (((((⟨rfl, rfl⟩ | ⟨rfl, rfl⟩ | ⟨rfl, rfl⟩) | ⟨o', ho', ⟨rfl, rfl⟩ | ⟨rfl, rfl⟩⟩) |
      ⟨rfl, rfl⟩) | ⟨rfl, rfl⟩) | ⟨rfl, rfl⟩) | ⟨rfl, rfl⟩
    · exact ⟨_, .availableProcessors⟩
    · exact ⟨_, .uptime⟩
    · exact ⟨_, .processCpuTime⟩
    · exact ⟨_, .collectionTime ((hcs _).1 ho')⟩
    · exact ⟨_, .collectionCount ((hcs _).1 ho')⟩
    · exact ⟨_, .heap⟩
    · exact ⟨_, .nonHeap⟩
    · exact ⟨_, .totalLoadedClasses⟩
    · exact ⟨_, .threadCount⟩
  · rintro ⟨k, h⟩
    cases h with
    | collectionTime ho | collectionCount ho =>
      have hmem := (hcs o).2 ho
      simp [counterReads, collectorReads, hmem]
    | availableProcessors | uptime | processCpuTime | heap | nonHeap | totalLoadedClasses
      | threadCount => simp [counterReads]

/-- The constants are held, and the state behind is in `P`. -/
def Holding (info : RuntimeInfo) (P : σ → Prop) (y : Gauges × σ) : Prop :=
  y.1.runtime = some info ∧ P y.2

theorem completes_beside {α : Type} {P : σ → Prop} {x : Exchange σ α} {Q : α → σ → Prop}
    (h : Completes P x Q) (info : RuntimeInfo) :
    Completes (Holding info P) (x.beside Gauges) fun a => Holding info (Q a) :=
  h.beside fun g : Gauges => g.runtime = some info

theorem completes_modifyMetrics {info : RuntimeInfo} {P : σ → Prop} (f : Metrics → Metrics) :
    Completes (Holding info P) (Gauges.modifyMetrics f : Exchange (Gauges × σ) Unit) fun _ =>
      Holding info P :=
  fun y hy => ⟨(), ({ y.1 with metrics := f y.1.metrics }, y.2), rfl, hy⟩

/-- Something is read and taken in, and more follows. -/
theorem completes_take {α β : Type} {info : RuntimeInfo} {P Q : σ → Prop} {R : β → Gauges × σ → Prop}
    {x : Exchange σ α} {f : α → Metrics → Metrics} {k : Exchange (Gauges × σ) β}
    (hx : Completes P x fun _ => Q) (hk : Completes (Holding info Q) k R) :
    Completes (Holding info P)
      (x.beside Gauges >>= fun a => Gauges.modifyMetrics (f a) >>= fun _ => k) R :=
  (completes_beside hx info).bind fun a => (completes_modifyMetrics (f a)).bind fun _ => hk

/-- **A full reading** that has the constants comes to its end, and has read just what is polled. -/
theorem Tours.sample {src : Source σ} {collectors : List ObjectName} {lockUsage : Bool}
    {I : List (ObjectName × String) → List Request → σ → Prop}
    (h : Tours src collectors lockUsage I) (info : RuntimeInfo) :
    Completes (Holding info (I [] [])) (Gauges.sample src lockUsage) fun _ =>
      Holding info fun s => ∃ rs, (∀ o n, (o, n) ∈ rs ↔ ∃ k, Polled collectors o n k) ∧
        I rs (operationsOf lockUsage) s := by
  have hlearn : Completes (Holding info (I [] [])) (Gauges.learnRuntime src) fun _ =>
      Holding info (I [] []) :=
    fun y hy => ⟨_, y, Gauges.run_learnRuntime_of_some src hy.1 y.2, hy⟩
  refine hlearn.bind fun hundred => ?_
  refine completes_take (h.readCounters hundred) ?_
  refine completes_take (Completes.exists_of_fact fun cs hcs => h.long .totalLoadedClasses _ _) ?_
  refine completes_take (Completes.exists_of_fact fun cs hcs => h.long .threadCount _ _) ?_
  have hdeadlocks := Completes.exists_of_fact fun cs (_ : ∀ o, o ∈ cs ↔ o ∈ collectors) =>
    h.readDeadlocks (counterReads cs ++ [(.classLoading, "TotalLoadedClassCount")] ++
      [(.threading, "ThreadCount")])
  refine ((completes_beside hdeadlocks info).bind fun deadlocks => completes_modifyMetrics _).imp ?_
  rintro - y ⟨hinfo, cs, hcs, hI⟩
  exact ⟨hinfo, _, mem_counterReads_append hcs, hI⟩

/-! ### Over a cache -/

/-- An operation that is answered is answered through the cache, which it leaves alone. -/
theorem run_cached_operation {α : Type} {src : Source σ} {o : ObjectName} {operation : String}
    {params : List AttributeValue} {f : AttributeValue → Except ConnectionError α} {s : σ}
    (h : (src.ask (.invoke o operation params) >>= fun v => ofExcept (f v)).Succeeds s) (c : Cache) :
    ∃ a, ((Cache.source src).ask (.invoke o operation params) >>= fun v => ofExcept (f v)).run (c, s) =
      (.ok a, c, ((src.ask (.invoke o operation params)).run s).2) := by
  obtain ⟨a, s', h⟩ := h
  obtain ⟨v, s₁, hask, hdecode⟩ := run_bind_eq_ok.1 h
  rw [run_ofExcept] at hdecode
  obtain ⟨hf, rfl⟩ := Prod.mk.inj hdecode
  rw [hask]
  refine ⟨a, run_bind_eq_ok.2 ⟨v, (c, s₁), run_beside_eq_iff.2 ⟨hask, rfl⟩, ?_⟩⟩
  rw [run_ofExcept, hf]

/-- Over a cache it is enough to follow the reads of attributes, and to see that the other requests
leave the cache alone. -/
theorem Source.Steady.tours {src : Source σ} {P : σ → Prop} {collectors : List ObjectName}
    {lockUsage : Bool} (hsrc : src.Steady P collectors lockUsage)
    {I : List (ObjectName × String) → List Request → Cache × σ → Prop}
    (hP : ∀ {rs qs y}, I rs qs y → P y.2)
    (hread : ∀ {o n k}, Polled collectors o n k → ∀ rs qs,
      Completes (I rs qs) ((Cache.source src).ask (.single o n))
        fun v y => k.Fits v ∧ I (rs ++ [(o, n)]) qs y)
    (hpass : ∀ {r rs qs c s}, r.reads? = none → I rs qs (c, s) →
      I rs (qs ++ [r]) (c, ((src.ask r).run s).2)) :
    Tours (Cache.source src) collectors lockUsage I where
  read := hread
  list := by
    rintro rs qs ⟨c, s⟩ hI
    obtain ⟨cs, s', hrun, hcs⟩ := hsrc.lists s (hP hI)
    have hask : (src.ask (.query .garbageCollectors)).run s = (.ok cs, s') := hrun
    have hnext := hpass (r := .query .garbageCollectors) rfl hI
    rw [hask] at hnext
    exact ⟨cs, (c, s'), run_beside_eq_iff.2 ⟨hask, rfl⟩, hcs, hnext⟩
  locks := by
    rintro hlocks rs qs ⟨c, s⟩ hI
    obtain ⟨a, hrun⟩ := run_cached_operation (hsrc.locks hlocks s (hP hI)) c
    exact ⟨a, _, hrun, hpass rfl hI⟩
  monitors := by
    rintro rs qs ⟨c, s⟩ hI
    obtain ⟨a, hrun⟩ := run_cached_operation (hsrc.monitors s (hP hI)) c
    exact ⟨a, _, hrun, hpass rfl hI⟩

/-! ### What a reading teaches -/

/-- What was read is learned. -/
structure Learning (P : σ → Prop) (collectors : List ObjectName) (rs : List (ObjectName × String))
    (y : Cache × σ) : Prop where
  learned : ∀ o n, (o, n) ∈ rs → y.1.Learned o n
  complete : y.1.Complete collectors
  kept : P y.2

theorem Source.Steady.tours_learning {src : Source σ} {P : σ → Prop} {collectors : List ObjectName}
    {lockUsage : Bool} (hsrc : src.Steady P collectors lockUsage) :
    Tours (Cache.source src) collectors lockUsage fun rs _ => Learning P collectors rs := by
  refine hsrc.tours Learning.kept ?_ ?_
  · intro o n k hpolled rs qs y hy
    obtain ⟨v, y', hrun, hfits, hlearned, hcomplete, hkept⟩ :=
      Cache.ask_learns hsrc hpolled y ⟨hy.complete, hy.kept⟩
    refine ⟨v, y', hrun, hfits, ⟨fun o' n' hmem => ?_, hcomplete, hkept⟩⟩
    rcases List.mem_append.1 hmem with hmem | hmem
    · have hknows : y.1.Knows o' [n'] := by
        intro n'' hn''
        obtain rfl := List.mem_singleton.1 hn''
        exact hy.learned o' n'' hmem
      have hstill := Cache.ask_knows src (.single o n) y hknows
      rw [hrun] at hstill
      exact hstill n' (.head _)
    · obtain ⟨rfl, rfl⟩ := Prod.mk.inj (List.mem_singleton.1 hmem)
      exact hlearned
  · intro r rs qs c s _ hy
    exact ⟨hy.learned, hy.complete, hsrc.keeps r s hy.kept⟩

end

/-! ### What a reading sends -/

namespace Traffic

/-- The object of a batch. -/
def batched? : Traffic → Option ObjectName
  | ask _ (.batch o _) _ => some o
  | _ => none

/-- A request other than a batch. -/
def unbatched? : Traffic → Option Request
  | ask _ (.batch _ _) _ => none
  | ask _ r _ => some r
  | _ => none

end Traffic

/-- One read more is of the same objects and perhaps of another one. -/
theorem exists_read_append_iff {rs : List (ObjectName × String)} {o o' : ObjectName} {n : String} :
    (∃ n', (o', n') ∈ rs ++ [(o, n)]) ↔ (∃ n', (o', n') ∈ rs) ∨ o' = o := by
  simp only [List.mem_append, List.mem_singleton, Prod.mk.injEq, exists_or, exists_and_left,
    exists_eq, and_true]

/-- The requests `l` over a connection are one batch for each object of the reads `rs`, and the other
requests `qs`. -/
structure Spent (i : ConnectionId) (rs : List (ObjectName × String)) (qs : List Request)
    (l : List Traffic) : Prop where
  asks : ∀ e ∈ l, e.isAsk i
  nodup : (l.filterMap Traffic.batched?).Nodup
  mem_batched : ∀ o, o ∈ l.filterMap Traffic.batched? ↔ ∃ n, (o, n) ∈ rs
  unbatched : l.filterMap Traffic.unbatched? = qs

namespace Spent

variable {i : ConnectionId} {rs : List (ObjectName × String)} {qs : List Request} {l : List Traffic}
  {o : ObjectName} {n : String}

theorem nil (i : ConnectionId) : Spent i [] [] [] := ⟨by simp, by simp, by simp, rfl⟩

/-- A read of an object that was read before costs nothing. -/
theorem hit (h : Spent i rs qs l) (hread : ∃ n, (o, n) ∈ rs) (n : String) :
    Spent i (rs ++ [(o, n)]) qs l := by
  refine ⟨h.asks, h.nodup, fun o' => ?_, h.unbatched⟩
  rw [h.mem_batched, exists_read_append_iff, or_iff_left_of_imp]
  rintro rfl
  exact hread

/-- A read of another object costs a batch. -/
theorem batch (h : Spent i rs qs l) (hnew : ¬ ∃ n, (o, n) ∈ rs) (n : String) (ns : List String)
    (a : Except ConnectionError AttributeMap) :
    Spent i (rs ++ [(o, n)]) qs (l ++ [.ask i (.batch o ns) a]) := by
  have hbatched : (l ++ [Traffic.ask i (.batch o ns) a]).filterMap Traffic.batched? =
      l.filterMap Traffic.batched? ++ [o] := by
    rw [List.filterMap_append]
    rfl
  refine ⟨?_, ?_, fun o' => ?_, ?_⟩
  · intro e he
    rcases List.mem_append.1 he with he | he
    · exact h.asks e he
    · obtain rfl := List.mem_singleton.1 he
      simp [Traffic.isAsk]
  · rw [hbatched, List.nodup_append]
    refine ⟨h.nodup, by simp, fun o₁ h₁ o₂ h₂ heq => hnew ?_⟩
    obtain rfl := List.mem_singleton.1 h₂
    exact (h.mem_batched o₂).1 (heq ▸ h₁)
  · rw [hbatched, List.mem_append, h.mem_batched, List.mem_singleton, exists_read_append_iff]
  · rw [List.filterMap_append, h.unbatched]
    exact List.append_nil qs

/-- Another request is on record as it is. -/
theorem pass (h : Spent i rs qs l) {r : Request} (hr : r.reads? = none)
    (a : Except ConnectionError r.Answer) : Spent i rs (qs ++ [r]) (l ++ [.ask i r a]) := by
  have hbatched : Traffic.batched? (.ask i r a) = none := by
    cases r with
    | batch o ns => cases hr
    | single o n | query o | invoke o op params => rfl
  have hunbatched : Traffic.unbatched? (.ask i r a) = some r := by
    cases r with
    | batch o ns => cases hr
    | single o n | query o | invoke o op params => rfl
  refine ⟨?_, ?_, ?_, ?_⟩
  · intro e he
    rcases List.mem_append.1 he with he | he
    · exact h.asks e he
    · obtain rfl := List.mem_singleton.1 he
      simp [Traffic.isAsk]
  · simpa [List.filterMap_append, hbatched] using h.nodup
  · simpa [List.filterMap_append, hbatched] using h.mem_batched
  · simp [List.filterMap_append, hunbatched, h.unbatched]

end Spent

variable {ω : Type} {t : Transport ω} {P : ω → Prop} {collectors : List ObjectName} {lockUsage : Bool}

/-- A record of what is sent does not disturb. -/
theorem Source.Steady.logged {i : ConnectionId} (h : (t.source i).Steady P collectors lockUsage) :
    (t.logged.source i).Steady (fun x => P x.2) collectors lockUsage := by
  have halike : (t.logged.source i).Alike (fun x w => x.2 = w) (t.source i) := by
    rintro r ⟨log, w⟩ _ rfl
    exact ⟨rfl, rfl⟩
  refine ⟨fun r x hx => h.keeps r x.2 hx, ?_, ?_, ?_, ?_, ?_⟩
  · intro o n k hpolled ns x hx
    exact ((halike _).succeeds rfl).2 (h.answers hpolled ns x.2 hx)
  · intro o n k hpolled ns x m x' hx hrun
    obtain ⟨w', hask, -⟩ := (halike (.batch o ns)).exists_run rfl hrun
    exact h.told hpolled hx hask
  · intro x hx
    obtain ⟨cs, w', hrun, hcs⟩ := h.lists x.2 hx
    obtain ⟨cs', x', hrun'⟩ := ((halike (.query .garbageCollectors)).succeeds rfl).2 ⟨cs, w', hrun⟩
    obtain ⟨w'', hagain, -⟩ := (halike (.query .garbageCollectors)).exists_run rfl hrun'
    cases hrun.symm.trans hagain
    exact ⟨cs, x', hrun', hcs⟩
  · intro hlocks x hx
    exact (halike.deadlockedThreads?.succeeds rfl).2 (h.locks hlocks x.2 hx)
  · intro x hx
    exact (halike.monitorDeadlockedThreads?.succeeds rfl).2 (h.monitors x.2 hx)

/-- Since `x`, the reads `rs` and the other requests `qs` were sent over a trained cache. -/
structure Spending (P : ω → Prop) (collectors : List ObjectName) (i : ConnectionId) (x : Logged ω)
    (rs : List (ObjectName × String)) (qs : List Request) (y : Cache × Logged ω) : Prop where
  trained : y.1.Trained collectors
  complete : y.1.Complete collectors
  kept : P y.2.2
  cached : ∀ o, (y.1.values.get? o).isSome ↔ ∃ n, (o, n) ∈ rs
  sent : ∃ l, y.2.1 = x.1 ++ l ∧ Spent i rs qs l

/-- A trained cache holds an attribute that is polled if it has any values of the object. -/
theorem Cache.Trained.holds_iff {c : Cache} (h : c.Trained collectors) (hc : c.Complete collectors)
    {o : ObjectName} {n : String} {k : ReadingKind} (hpolled : Polled collectors o n k) :
    c.Holds o [n] ↔ (c.values.get? o).isSome := by
  constructor
  · rintro ⟨m, hm, -⟩
    simp [hm]
  · intro hsome
    obtain ⟨m, hm⟩ := Option.isSome_iff_exists.1 hsome
    refine ⟨m, hm, fun n' hn' => ?_⟩
    obtain rfl := List.mem_singleton.1 hn'
    exact (hc o n' k hpolled m hm).1.2 (h o n' k hpolled)

theorem Source.Steady.tours_spending {i : ConnectionId}
    (h : (t.source i).Steady P collectors lockUsage) (x : Logged ω) :
    Tours (Cache.source (t.logged.source i)) collectors lockUsage
      (Spending P collectors i x) := by
  refine h.logged.tours Spending.kept ?_ ?_
  · rintro o n k hpolled rs qs ⟨c, y⟩ ⟨htrained, hcomplete, hkept, hcached, l, hl, hspent⟩
    have hkeeps := Cache.ask_keeps_complete h.logged (.single o n) (c, y) ⟨hcomplete, hkept⟩
    have hstill := Cache.ask_keeps_trained (t.logged.source i) (.single o n) (c, y) htrained
    have hholds := htrained.holds_iff hcomplete hpolled
    obtain ⟨v, hfits, ⟨hheld, hrun⟩ | ⟨hmiss, m, y', hask, hrun⟩⟩ :=
      Cache.ask_cases h.logged hcomplete hkept hpolled
    · have hread : ∃ n, (o, n) ∈ rs := (hcached o).1 (hholds.1 hheld)
      refine ⟨v, (c, y), hrun, hfits, htrained, hcomplete, hkept, fun o' => ?_, l, hl,
        hspent.hit hread n⟩
      rw [hcached o', exists_read_append_iff, or_iff_left_of_imp]
      rintro rfl
      exact hread
    · rw [hrun] at hkeeps hstill
      have hnew : ¬ ∃ n, (o, n) ∈ rs := fun hread => hmiss (hholds.2 ((hcached o).2 hread))
      have hsent := Transport.logged_ask (t := t) i (.batch o (c.wanted o [n])) y
      rw [hask, show y.1 = x.1 ++ l from hl, List.append_assoc] at hsent
      refine ⟨v, _, hrun, hfits, hstill, hkeeps.1, hkeeps.2, fun o' => ?_, _, hsent,
        hspent.batch hnew n _ _⟩
      rw [exists_read_append_iff, ← hcached o']
      simp only [Cache.store, Register.get?_set]
      by_cases ho : o = o'
      · simp [ho]
      · simp [ho, Ne.symm ho]
  · rintro r rs qs c y hr ⟨htrained, hcomplete, hkept, hcached, l, hl, hspent⟩
    have hsent := Transport.logged_ask (t := t) i r y
    rw [show y.1 = x.1 ++ l from hl, List.append_assoc] at hsent
    exact ⟨htrained, hcomplete, h.logged.keeps r y hkept, hcached, _, hsent, hspent.pass hr _⟩

/-! ### One update -/

namespace Gauges

/-- A reading that comes to its end holds the constants, and leaves a trained cache. -/
theorem trained_of_sample {σ : Type} {src : Source σ} {P : σ → Prop}
    (hsrc : src.Steady P collectors lockUsage) {g g' : Gauges} {c c' : Cache} {s s' : σ}
    (hc : c.Complete collectors) (hs : P s)
    (h : (sample (Cache.source src) lockUsage).run (g, c, s) = (.ok (), g', c', s')) :
    g'.runtime.isSome ∧ c'.Trained collectors ∧ c'.Complete collectors ∧ P s' := by
  -- With the constants, the reading is a tour; without, it first fetches them.
  have htour (g : Gauges) (info : RuntimeInfo) (hg : g.runtime = some info) (y : Cache × σ)
      (hy : y.1.Complete collectors ∧ P y.2)
      (h : (sample (Cache.source src) lockUsage).run (g, y) = (.ok (), g', c', s')) :
      g'.runtime.isSome ∧ c'.Trained collectors ∧ c'.Complete collectors ∧ P s' := by
    have hstart : Learning P collectors [] y := ⟨nofun, hy.1, hy.2⟩
    obtain ⟨_, _, hrun, hinfo, rs, hrs, hlearned, hcomplete, hkept⟩ :=
      hsrc.tours_learning.sample info (g, y) ⟨hg, hstart⟩
    cases h.symm.trans hrun
    refine ⟨Option.isSome_iff_exists.2 ⟨info, hinfo⟩, fun o n k hpolled => ?_, hcomplete, hkept⟩
    exact hlearned o n ((hrs o n).2 ⟨k, hpolled⟩)
  cases hg : g.runtime with
  | some info => exact htour g info hg (c, s) ⟨hc, hs⟩ h
  | none =>
    rcases learnRuntime_cases (Cache.source src) hg (c, s) with
      ⟨e, y, hlearn⟩ | ⟨info, y, hfetch, hlearn⟩
    · unfold sample at h
      rw [run_bind, hlearn] at h
      cases h
    · have hasks : (Cache.source src).Alike (Same fun y => y.1.Complete collectors ∧ P y.2)
          (Cache.source src) := fun r => (Cache.ask_keeps_complete hsrc r).alike
      have hkept := hasks.fetch.keeps (c, s) ⟨hc, hs⟩
      rw [hfetch] at hkept
      rw [run_sample_of_fetched hlearn] at h
      exact htour _ info rfl y hkept h

/-- An update over a connection that is alive is the reading. -/
theorem update_of_run {id : InstanceId} {g g' : Gauges} {s : Session} {c : Connection} {w w₁ w' : ω}
    {cache : Cache} (hs : s.state.isAttached) (hc : s.connection = some c)
    (halive : t.isAlive c.id w = (true, w₁))
    (hrun : (sample (Cache.source (t.source c.id)) s.lockUsage).run (g, c.cache.flush, w₁) =
      (.ok (), g', cache, w')) :
    g.update t id s w =
      (.ok (), g', { s with connection := some { c with cache }, state := .attached }, w') := by
  have hnext := SessionState.next_updateSucceeded hs
  rw [update_of_done hs (Session.isLive_of_alive hc halive) (readSession_of_run t hc hrun),
    Session.apply_of_next_not_isTerminal _ (by simp [hnext, SessionState.isTerminal]), hnext]

/-- An update that ends well is such a one. -/
theorem run_of_update_eq_ok {id : InstanceId} {g g' : Gauges} {s s' : Session} {c : Connection}
    {w w' : ω} (hs : s.state.isAttached) (hc : s.connection = some c)
    (h : g.update t id s w = (.ok (), g', s', w')) :
    ∃ w₁ cache, t.isAlive c.id w = (true, w₁) ∧
      (sample (Cache.source (t.source c.id)) s.lockUsage).run (g, c.cache.flush, w₁) =
        (.ok (), g', cache, w') ∧
      s' = { s with connection := some { c with cache }, state := .attached } := by
  rcases halive : t.isAlive c.id w with ⟨_ | _, w₁⟩
  · rw [update_of_lost hs (Session.isLive_of_dead hc halive)] at h
    cases h
  rcases hrun : (sample (Cache.source (t.source c.id)) s.lockUsage).run (g, c.cache.flush, w₁) with
    ⟨e | u, g₁, cache, w₂⟩
  · rcases happly : Session.apply t (.updateFailed (g₁.metrics.updateErrors + 1))
      { s with connection := some { c with cache } } w₂ with ⟨s₂, w₃⟩
    rw [update_of_failed hs (Session.isLive_of_alive hc halive) (readSession_of_run t hc hrun)
      happly] at h
    cases h
  · rw [update_of_run hs hc halive hrun] at h
    cases h
    exact ⟨w₁, cache, rfl, hrun, rfl⟩

end Gauges

/-- The readings reach what is behind them by requests only: whatever every request keeps, they keep. -/
def ByRequests {σ α : Type} (readings : Source σ → StateM σ α) : Prop :=
  ∀ (src : Source σ) (I : σ → Prop), (∀ r, Keeps I (src.ask r)) →
    ∀ s, I s → I ((readings src).run s).2

/-- The updates of an instance from `x` on. Between them there may be any readings over its session;
and anything may happen to the peers and to other sessions, as long as the peers are in `P`. -/
inductive Attended (t : Transport ω) (P : ω → Prop) (x : TrackedVm × World (Logged ω)) :
    List UpdateRecord → TrackedVm × World (Logged ω) → Prop
  | none : Attended t P x [] x
  | update {us : List UpdateRecord} {vm vm' : TrackedVm} {world world' : World (Logged ω)}
      {u : UpdateRecord} : Attended t P x us (vm, world) →
      vm.update t.logged world = (u.result, vm', world') →
      world'.peers.1 = world.peers.1 ++ u.sent → Attended t P x (us ++ [u]) (vm', world')
  | read {us : List UpdateRecord} {vm : TrackedVm} {world : World (Logged ω)} {α : Type}
      {readings : Source (Cache × Logged ω) → StateM (Cache × Logged ω) α} :
      Attended t P x us (vm, world) → ByRequests readings →
      Attended t P x us (vm, (vm.read t.logged readings world).2)
  | elsewhere {us : List UpdateRecord} {vm : TrackedVm} {world world' : World (Logged ω)} :
      Attended t P x us (vm, world) →
      world'.registry.session? vm.session = world.registry.session? vm.session →
      P world'.peers.2 → Attended t P x us (vm, world')

/-- What is reached over the connection `i` stays alive, and answers whatever an update reads. -/
structure Transport.Steady (t : Transport ω) (i : ConnectionId) (P : ω → Prop)
    (collectors : List ObjectName) (lockUsage : Bool) : Prop where
  lives : ∀ w, P w → (t.isAlive i w).1 = true ∧ P (t.isAlive i w).2
  source : (t.source i).Steady P collectors lockUsage

theorem Transport.Steady.logged {i : ConnectionId} (h : t.Steady i P collectors lockUsage) :
    t.logged.Steady i (fun x => P x.2) collectors lockUsage :=
  ⟨fun x hx => h.lives x.2 hx, h.source.logged⟩

/-- What an update sends: a liveness check, which finds somebody, and requests; among them one batch
for each object that is read, one query for the collectors, and one operation for each kind of lock
that threads may wait for. No attribute is asked for by itself. -/
structure UpdateRecord.Costs (u : UpdateRecord) (i : ConnectionId) (collectors : List ObjectName)
    (lockUsage : Bool) : Prop where
  alive : ∃ asks, u.sent = .isAlive i true :: asks ∧ ∀ e ∈ asks, e.isAsk i
  batched_nodup : (u.sent.filterMap Traffic.batched?).Nodup
  mem_batched : ∀ o, o ∈ u.sent.filterMap Traffic.batched? ↔ o ∈ platformObjects ∨ o ∈ collectors
  unbatched : u.sent.filterMap Traffic.unbatched? = .query .garbageCollectors ::
    ((if lockUsage then [.invoke .threading "findDeadlockedThreads" []] else []) ++
      [.invoke .threading "findMonitorDeadlockedThreads" []])

/-- What is spent on a full reading is what an update costs. -/
theorem Spent.costs {i : ConnectionId} {rs : List (ObjectName × String)} {l : List Traffic}
    (h : Spent i rs (operationsOf lockUsage) l)
    (hrs : ∀ o n, (o, n) ∈ rs ↔ ∃ k, Polled collectors o n k) {u : UpdateRecord}
    (hsent : u.sent = .isAlive i true :: l) : u.Costs i collectors lockUsage := by
  have hbatched : u.sent.filterMap Traffic.batched? = l.filterMap Traffic.batched? := by
    rw [hsent]
    rfl
  have hunbatched : u.sent.filterMap Traffic.unbatched? = l.filterMap Traffic.unbatched? := by
    rw [hsent]
    rfl
  refine ⟨⟨l, hsent, h.asks⟩, hbatched ▸ h.nodup, fun o => ?_, hunbatched.trans h.unbatched⟩
  rw [hbatched, h.mem_batched, ← exists_polled_iff]
  simp only [hrs]

namespace TrackedVm

/-- An attached instance that holds its constants, over a connection with a trained cache. -/
structure Ready (P : ω → Prop) (i : ConnectionId) (collectors : List ObjectName) (lockUsage : Bool)
    (vm : TrackedVm) (world : World (Logged ω)) (s : Session) (c : Connection) : Prop where
  session : world.registry.session? vm.session = some s
  attached : s.state.isAttached
  connection : s.connection = some c
  id : c.id = i
  lockUsage : s.lockUsage = lockUsage
  runtime : vm.gauges.runtime.isSome
  trained : c.cache.Trained collectors
  complete : c.cache.Complete collectors
  kept : P world.peers.2

variable {i : ConnectionId} {vm vm' : TrackedVm} {world world' : World (Logged ω)} {s : Session}
  {c : Connection}

/-- The first update that ends well makes an instance ready. -/
theorem exists_ready_of_update (ht : t.Steady c.id P collectors s.lockUsage)
    (hsession : world.registry.session? vm.session = some s) (hs : s.state.isAttached)
    (hc : s.connection = some c) (hP : P world.peers.2)
    (h : vm.update t.logged world = (.ok (), vm', world')) :
    ∃ s' c', Ready P c.id collectors s.lockUsage vm' world' s' c' := by
  rcases hu : vm.gauges.update t.logged vm.id s world.peers with ⟨result, g', s', x'⟩
  rw [update_of_session _ hsession hu] at h
  cases h
  obtain ⟨x₁, cache, halive, hrun, rfl⟩ := Gauges.run_of_update_eq_ok hs hc hu
  have hlives := (ht.logged.lives world.peers hP).2
  rw [halive] at hlives
  obtain ⟨hruntime, htrained, hcomplete, hkept⟩ := Gauges.trained_of_sample ht.source.logged
    (Cache.complete_of_values_eq_nil rfl) hlives hrun
  exact ⟨_, _, Registry.session?_put_self hsession, rfl, rfl, rfl, rfl, hruntime, htrained, hcomplete,
    hkept⟩

namespace Ready

/-- **One update** of an instance that is ready: it ends well, at its cost, and the instance stays
ready. -/
theorem update (ht : t.Steady i P collectors lockUsage)
    (h : Ready P i collectors lockUsage vm world s c) {u : UpdateRecord}
    (hu : vm.update t.logged world = (u.result, vm', world'))
    (hsent : world'.peers.1 = world.peers.1 ++ u.sent) :
    u.result = .ok () ∧ u.Costs i collectors lockUsage ∧
      ∃ s' c', Ready P i collectors lockUsage vm' world' s' c' := by
  obtain ⟨hsession, hs, hc, rfl, rfl, hruntime, htrained, hcomplete, hkept⟩ := h
  obtain ⟨info, hinfo⟩ := Option.isSome_iff_exists.1 hruntime
  obtain ⟨hlives, hkept₁⟩ := ht.logged.lives world.peers hkept
  rcases halive : t.logged.isAlive c.id world.peers with ⟨alive, x₁⟩
  rw [halive] at hlives hkept₁
  obtain rfl : alive = true := hlives
  have hx₁ := Transport.logged_isAlive halive
  -- Nothing is cached, and nothing has been read.
  have hstart : Spending P collectors c.id x₁ [] [] (c.cache.flush, x₁) :=
    ⟨htrained, Cache.complete_of_values_eq_nil rfl, hkept₁,
      fun o => by simp [Cache.flush, Register.get?], [], by simp, .nil _⟩
  obtain ⟨⟨⟩, ⟨g', cache, x₂⟩, hrun, hinfo', rs, hrs, hend⟩ :=
    (ht.source.tours_spending x₁).sample info (vm.gauges, c.cache.flush, x₁) ⟨hinfo, hstart⟩
  obtain ⟨htrained', hcomplete', hkept', -, l, hl, hspent⟩ := hend
  rw [update_of_session _ hsession (Gauges.update_of_run hs hc halive hrun)] at hu
  obtain ⟨hresult, rfl, rfl⟩ := by simpa only [Prod.mk.injEq] using hu
  have hcost : u.sent = .isAlive c.id true :: l := by
    have hall : world.peers.1 ++ u.sent = world.peers.1 ++ ([.isAlive c.id true] ++ l) := by
      rw [← List.append_assoc, ← hx₁]
      exact hsent.symm.trans hl
    exact List.append_cancel_left hall
  exact ⟨hresult.symm, hspent.costs hrs hcost, _, _, Registry.session?_put_self hsession, rfl, rfl,
    rfl, rfl, Option.isSome_iff_exists.2 ⟨info, hinfo'⟩, htrained', hcomplete', hkept'⟩

/-- Other readings over the session leave the instance ready. -/
theorem read {α : Type} {readings : Source (Cache × Logged ω) → StateM (Cache × Logged ω) α}
    (hreads : ByRequests readings) (ht : t.Steady i P collectors lockUsage)
    (h : Ready P i collectors lockUsage vm world s c) :
    ∃ s' c', Ready P i collectors lockUsage vm (vm.read t.logged readings world).2 s' c' := by
  obtain ⟨hsession, hs, hc, rfl, rfl, hruntime, htrained, hcomplete, hkept⟩ := h
  obtain ⟨htrained', hcomplete', hkept'⟩ := hreads (Cache.source (t.logged.source c.id))
    (fun y => y.1.Trained collectors ∧ y.1.Complete collectors ∧ P y.2.2)
    (fun r y hy => ⟨Cache.ask_keeps_trained _ r y hy.1,
      Cache.ask_keeps_complete ht.source.logged r y hy.2⟩)
    (c.cache, world.peers) ⟨htrained, hcomplete, hkept⟩
  rcases hrun : (readings (Cache.source (t.logged.source c.id))).run (c.cache, world.peers) with
    ⟨a, cache, x'⟩
  rw [hrun] at htrained' hcomplete' hkept'
  have hread : vm.read t.logged readings world = (some a, ⟨world.registry.put vm.session
      { s with connection := some { c with cache } }, x'⟩) := by
    simp only [TrackedVm.read, World.onSession_of_some hsession, hs, if_true, Session.read, hc, hrun]
  rw [hread]
  exact ⟨_, _, Registry.session?_put_self hsession, hs, rfl, rfl, rfl, hruntime, htrained',
    hcomplete', hkept'⟩

end Ready

end TrackedVm

/-- **The invariant** over a run: every update ends well, at its cost, and leaves the instance ready. -/
theorem Attended.ready {i : ConnectionId} (ht : t.Steady i P collectors lockUsage)
    {x y : TrackedVm × World (Logged ω)} {us : List UpdateRecord} (h : Attended t P x us y)
    (hx : ∃ s c, x.1.Ready P i collectors lockUsage x.2 s c) :
    (∃ s c, y.1.Ready P i collectors lockUsage y.2 s c) ∧
      ∀ u ∈ us, u.result = .ok () ∧ u.Costs i collectors lockUsage := by
  induction h with
  | none => exact ⟨hx, by simp⟩
  | @update us vm vm' world world' u _ hu hsent ih =>
    obtain ⟨⟨s, c, hready⟩, hus⟩ := ih
    obtain ⟨hresult, hcosts, hready'⟩ := hready.update ht hu hsent
    refine ⟨hready', fun u' hu' => ?_⟩
    rcases List.mem_append.1 hu' with hu' | hu'
    · exact hus u' hu'
    · obtain rfl := List.mem_singleton.1 hu'
      exact ⟨hresult, hcosts⟩
  | read _ hreads ih =>
    obtain ⟨⟨s, c, hready⟩, hus⟩ := ih
    exact ⟨hready.read hreads ht, hus⟩
  | elsewhere _ hsame hkept ih =>
    obtain ⟨⟨s, c, hready⟩, hus⟩ := ih
    exact ⟨⟨s, c, { hready with session := hsame.trans hready.session, kept := hkept }⟩, hus⟩

namespace TrackedVm

/-- **The cost in the long run.** An instance is attached over a connection whose other side stays
alive, answers whatever an update reads and always lists the same collectors; whatever else it answers
is free. Once an update has ended well, each later one does, however many there are and whatever is read
over the session between them, and each sends the same: one liveness check, one batch for each of the
five objects of the platform and for each collector, one query for the collectors, and one operation
that looks for deadlocks, or two if locks of any kind can be asked for. -/
theorem steady_cost {vm vm' : TrackedVm} {world world' : World (Logged ω)} {s : Session}
    {c : Connection} (ht : t.Steady c.id P collectors s.lockUsage)
    (hsession : world.registry.session? vm.session = some s) (hs : s.state.isAttached)
    (hc : s.connection = some c) (hP : P world.peers.2)
    (hfirst : vm.update t.logged world = (.ok (), vm', world')) {us : List UpdateRecord}
    {y : TrackedVm × World (Logged ω)} (h : Attended t P (vm', world') us y) :
    ∀ u ∈ us, u.result = .ok () ∧ u.Costs c.id collectors s.lockUsage :=
  (h.ready ht (exists_ready_of_update ht hsession hs hc hP hfirst)).2

end TrackedVm

/-- A scripted peer answers a batch with the values of its names, as far as they can be read. -/
theorem Script.get?_answer_batch {peer : Script} {o : ObjectName} {ns : List String}
    {m : AttributeMap} (h : peer.answer (.batch o ns) = .ok m) (n : String) (v : AttributeValue) :
    Table.get? n m = some v ↔ n ∈ ns ∧ peer.value o n = .ok v := by
  have hmem (n : String) (v : AttributeValue) :
      (n, v) ∈ ns.filterMap (fun n => (peer.value o n).toOption.map fun v => (n, v)) ↔
        n ∈ ns ∧ peer.value o n = .ok v := by
    have hvalue : (peer.value o n).toOption = some v ↔ peer.value o n = .ok v := by
      cases peer.value o n <;> simp [Except.toOption]
    simp only [List.mem_filterMap, Option.map_eq_some_iff, Prod.mk.injEq]
    constructor
    · rintro ⟨n, hn, v, hv, rfl, rfl⟩
      exact ⟨hn, hvalue.1 hv⟩
    · rintro ⟨hn, hv⟩
      exact ⟨n, hn, v, hvalue.2 hv, rfl, rfl⟩
  obtain rfl := Except.ok.inj h
  refine (Table.get?_ofList_eq_some_iff fun n v v' hv hv' => ?_).trans (hmem n v)
  exact Except.ok.inj (((hmem n v).1 hv).2.symm.trans ((hmem n v').1 hv').2)

/-- A talkative peer with a collector. -/
def Script.collecting : Script :=
  { Script.talkative with
    registered := [.threading, .garbageCollector "G1"]
    values := (.garbageCollector "G1", [("CollectionTime", .long 4), ("CollectionCount", .long 2)])
      :: Script.talkative.values }

/-- It answers whatever an update reads. -/
theorem Script.steady_collecting :
    Script.transport.Steady 0 (fun peer => ∃ log, peer = { Script.collecting with log })
      [.garbageCollector "G1"] false := by
  have hask (r : Request) (log : List Call) : (Script.ask r).run { Script.collecting with log } =
      (Script.collecting.answer r, { Script.collecting with log := log ++ [.ask r] }) := by
    cases r <;> rfl
  have hvalue {o : ObjectName} {n : String} {k : ReadingKind}
      (h : Polled [.garbageCollector "G1"] o n k) :
      ∃ v, Script.collecting.value o n = .ok v ∧ k.Fits v := by
    cases h with
    | collectionTime ho | collectionCount ho =>
      obtain rfl := List.mem_singleton.1 ho
      exact ⟨_, rfl, _, rfl⟩
    | availableProcessors | uptime | processCpuTime | heap | nonHeap | totalLoadedClasses
      | threadCount => exact ⟨_, rfl, _, rfl⟩
  refine ⟨?_, ?_, ?_, ?_, ?_, ?_, ?_⟩
  · rintro _ ⟨log, rfl⟩
    exact ⟨rfl, _, rfl⟩
  · rintro r _ ⟨log, rfl⟩
    exact ⟨_, congrArg Prod.snd (hask r log)⟩
  · rintro o n k - ns _ ⟨log, rfl⟩
    exact ⟨_, _, hask (.batch o ns) log⟩
  · rintro o n k hpolled ns _ m peer' ⟨log, rfl⟩ hrun
    obtain ⟨v, hv, hfits⟩ := hvalue hpolled
    obtain ⟨hanswer, -⟩ := Prod.mk.inj ((hask (.batch o ns) log).symm.trans hrun)
    have hget := Script.get?_answer_batch hanswer n
    refine ⟨?_, fun v' hv' => ?_⟩
    · simp only [Table.has, Option.isSome_iff_exists, hget, hv]
      simp
    · obtain rfl := Except.ok.inj (hv.symm.trans ((hget v').1 hv').2)
      exact hfits
  · rintro _ ⟨log, rfl⟩
    have hlisted : Script.collecting.registered.filter ObjectName.garbageCollectors.isMatch =
        [.garbageCollector "G1"] := by decide +kernel
    exact ⟨_, _, hask (.query .garbageCollectors) log, fun o => by rw [hlisted]⟩
  · intro hlocked
    cases hlocked
  · rintro _ ⟨log, rfl⟩
    exact ⟨none, _, rfl⟩

namespace TrackedVm

/-- An instance behind that peer, attached but not updated yet. -/
def settled : TrackedVm × World (Logged Script) :=
  settle Script.transport.logged ⟨7, "", true, .localProcess 7⟩ ⟨{}, ([], Script.collecting)⟩

/-- Its first update, a reading of something else, and its second update. -/
theorem steady_cost_of_collecting : ∃ s c vm world u y,
    settled.2.registry.session? settled.1.session = some s ∧ s.connection = some c ∧
      settled.1.update Script.transport.logged settled.2 = (.ok (), vm, world) ∧
      Attended Script.transport (fun peer => ∃ log, peer = { Script.collecting with log })
        (vm, world) [u] y ∧
      u.Costs c.id [.garbageCollector "G1"] s.lockUsage := by
  obtain ⟨hfound, hwell⟩ :
      ((settled.2.registry.session? settled.1.session).any fun s =>
        s.state.isAttached && s.connection.any (·.id = 0) && !s.lockUsage) ∧
      (settled.1.update Script.transport.logged settled.2).1.isOk := by decide +kernel
  have hkept : ∃ log, settled.2.peers.2 = { Script.collecting with log } := ⟨_, rfl⟩
  obtain ⟨s, hsession, hs⟩ := Option.any_eq_true _ _ |>.1 hfound
  obtain ⟨⟨hattached, hconnected⟩, hlocks⟩ := by simpa only [Bool.and_eq_true] using hs
  obtain ⟨c, hc, hid⟩ := Option.any_eq_true _ _ |>.1 hconnected
  rcases hfirst : settled.1.update Script.transport.logged settled.2 with ⟨e | u, vm, world⟩
  · simp [hfirst, Except.isOk, Except.toBool] at hwell
  have ht : Script.transport.Steady c.id (fun peer => ∃ log, peer = { Script.collecting with log })
      [.garbageCollector "G1"] s.lockUsage := by
    have hno : s.lockUsage = false := by simpa using hlocks
    rw [of_decide_eq_true hid, hno]
    exact Script.steady_collecting
  let readings (src : Source (Cache × Logged Script)) :=
    (src.ask (.single .memory "ObjectPendingFinalizationCount")).run
  have hreads : ByRequests readings := fun src I h y hy => h _ y hy
  rcases hu : vm.update Script.transport.logged (vm.read Script.transport.logged readings world).2 with
    ⟨result, vm', world'⟩
  obtain ⟨sent, hsent, -⟩ := update_course Script.transport hu
  have hread : Attended Script.transport (fun peer => ∃ log, peer = { Script.collecting with log })
      (vm, world) [] (vm, (vm.read Script.transport.logged readings world).2) :=
    Attended.none.read hreads
  have hrun := hread.update (u := ⟨result, sent⟩) hu hsent
  obtain ⟨-, hcosts⟩ := steady_cost ht hsession hattached hc hkept hfirst hrun _ (.head _)
  exact ⟨s, c, vm, world, _, _, hsession, hc, rfl, hrun, hcosts⟩

end TrackedVm

end VmMonitor
