import VmMonitor.Proofs.Peer.Batches
import VmMonitor.Proofs.Peer.Learning

/-!
# A cache around a steady source

What an update reads is the same in every cycle, apart from the collectors, which it is told. A source
is steady if it answers all of that, in whatever batches it is asked for it. A cache around such a
source has a value for an attribute of this kind just when it has learned its name: the batch that
fetched the values of an object has named all that is learned of it. So a read of a name that is
learned sends at most one batch for its object between two flushes, and nothing else; and a read of any
name is answered, and teaches the name.

## What is proved

* `Cache.ask_cases` — **one read**: answered from the cache, or by one batch.
* `Cache.ask_keeps_complete` — what any request leaves of such a cache.
* `Cache.ask_learns` — a read teaches its name.
-/

namespace VmMonitor

open Exchange

/-- The types of the attributes that every update reads. -/
inductive ReadingKind
  | number
  | usage

/-- The value is of the type. -/
def ReadingKind.Fits : ReadingKind → AttributeValue → Prop
  | number, v => ∃ n, v = .long n
  | usage, v => ∃ u, v = .usage u

/-- The objects that every update reads, besides the collectors. -/
def platformObjects : List ObjectName :=
  [.runtime, .operatingSystem, .memory, .classLoading, .threading]

/-- What every update reads, if these are the collectors: the attributes and their types. -/
inductive Polled (collectors : List ObjectName) : ObjectName → String → ReadingKind → Prop
  | availableProcessors : Polled collectors .operatingSystem "AvailableProcessors" .number
  | uptime : Polled collectors .runtime "Uptime" .number
  | processCpuTime : Polled collectors .operatingSystem "ProcessCpuTime" .number
  | collectionTime {o : ObjectName} : o ∈ collectors → Polled collectors o "CollectionTime" .number
  | collectionCount {o : ObjectName} : o ∈ collectors → Polled collectors o "CollectionCount" .number
  | heap : Polled collectors .memory "HeapMemoryUsage" .usage
  | nonHeap : Polled collectors .memory "NonHeapMemoryUsage" .usage
  | totalLoadedClasses : Polled collectors .classLoading "TotalLoadedClassCount" .number
  | threadCount : Polled collectors .threading "ThreadCount" .number

/-- An object of which something is polled. -/
theorem exists_polled_iff {collectors : List ObjectName} {o : ObjectName} :
    (∃ n k, Polled collectors o n k) ↔ o ∈ platformObjects ∨ o ∈ collectors := by
  constructor
  · rintro ⟨n, k, h⟩
    cases h with
    | collectionTime hc | collectionCount hc => exact .inr hc
    | availableProcessors | uptime | processCpuTime | heap | nonHeap | totalLoadedClasses
      | threadCount => exact .inl (by simp [platformObjects])
  · rintro (h | h)
    · simp only [platformObjects, List.mem_cons, List.not_mem_nil, or_false] at h
      rcases h with rfl | rfl | rfl | rfl | rfl
      · exact ⟨_, _, .uptime⟩
      · exact ⟨_, _, .availableProcessors⟩
      · exact ⟨_, _, .heap⟩
      · exact ⟨_, _, .totalLoadedClasses⟩
      · exact ⟨_, _, .threadCount⟩
    · exact ⟨_, _, .collectionTime h⟩

variable {σ : Type}

/-- In a state with `P`, which every request leaves as such, the source answers whatever an update
reads: a batch of an object is told, with a value of its type for each polled attribute that it names
and for no other one; the listed collectors are always the same; and the threads that wait for each
other can be asked for, over locks of any kind only if `lockUsage` says so. -/
structure Source.Steady (src : Source σ) (P : σ → Prop) (collectors : List ObjectName)
    (lockUsage : Bool) : Prop where
  keeps : ∀ r, Keeps P (src.ask r)
  answers : ∀ {o n k}, Polled collectors o n k → ∀ ns s, P s → (src.ask (.batch o ns)).Succeeds s
  told : ∀ {o n k}, Polled collectors o n k → ∀ {ns s m s'}, P s →
    (src.ask (.batch o ns)).run s = (.ok m, s') →
    (Table.has n m ↔ n ∈ ns) ∧ ∀ v, Table.get? n m = some v → k.Fits v
  lists : ∀ s, P s → ∃ cs s', src.garbageCollectors.run s = (.ok cs, s') ∧
    ∀ o, o ∈ cs ↔ o ∈ collectors
  locks : lockUsage → ∀ s, P s → src.deadlockedThreads?.Succeeds s
  monitors : ∀ s, P s → src.monitorDeadlockedThreads?.Succeeds s

namespace Cache

/-- Cached values of an object have a polled attribute just when its name is learned, and then with a
value of its type. -/
def Complete (collectors : List ObjectName) (c : Cache) : Prop :=
  ∀ o n k, Polled collectors o n k → ∀ m, c.values.get? o = some m →
    (Table.has n m ↔ c.Learned o n) ∧ ∀ v, Table.get? n m = some v → k.Fits v

/-- All polled attributes are learned. -/
def Trained (collectors : List ObjectName) (c : Cache) : Prop :=
  ∀ o n k, Polled collectors o n k → c.Learned o n

variable {src : Source σ} {P : σ → Prop} {collectors : List ObjectName} {lockUsage : Bool} {c : Cache}
  {o : ObjectName} {n : String} {k : ReadingKind} {ns : List String} {s s' : σ} {m : AttributeMap}

/-- Without cached values there is nothing to be told apart from what is learned. -/
theorem complete_of_values_eq_nil (h : c.values = []) : c.Complete collectors := by
  intro o n k _ m hm
  rw [h] at hm
  cases hm

/-- The names that are learned stay so with any request. -/
theorem ask_keeps_trained (src : Source σ) (r : Request) :
    Keeps (fun y => y.1.Trained collectors) ((source src).ask r) := by
  intro y hy o n k hpolled
  have hknows : y.1.Knows o [n] := by
    intro n' hn'
    obtain rfl := List.mem_singleton.1 hn'
    exact hy o n' k hpolled
  exact ask_knows src r y hknows n (.head _)

/-- A batch of a steady source makes the values of its object complete. -/
theorem Complete.store (hsrc : src.Steady P collectors lockUsage) (h : c.Complete collectors)
    (hs : P s) (hrun : (src.ask (.batch o ns)).run s = (.ok m, s')) :
    (c.store o ns m).Complete collectors := by
  intro o' n' k' hpolled m' hm'
  simp only [Cache.store, Register.get?_set] at hm'
  rw [learned_store]
  split_ifs at hm' ⊢ with ho
  · subst ho
    obtain rfl := Option.some_inj.1 hm'
    exact hsrc.told hpolled hs hrun
  · exact h o' n' k' hpolled m' hm'

/-- Whatever is requested, the cache stays complete and the source as it is. -/
theorem ask_keeps_complete (hsrc : src.Steady P collectors lockUsage) (r : Request) :
    Keeps (fun y => y.1.Complete collectors ∧ P y.2) ((source src).ask r) := by
  have hthrough (r : Request) : Keeps (fun y => y.1.Complete collectors ∧ P y.2) (through src r) :=
    fun y hy => ⟨hy.1, hsrc.keeps r y.2 hy.2⟩
  have hlookup (o : ObjectName) (ns : List String) :
      Keeps (fun y => y.1.Complete collectors ∧ P y.2) (lookup src o ns) := by
    rintro ⟨c, s⟩ ⟨hc, hs⟩
    have hkeeps := hsrc.keeps (.batch o (c.wanted o ns)) s hs
    cases hhit : c.hit? o ns with
    | some m =>
      rw [run_lookup_of_hit src hhit]
      exact ⟨hc, hs⟩
    | none =>
      rcases hask : (src.ask (.batch o (c.wanted o ns))).run s with ⟨e | m, s'⟩
      · rw [hask] at hkeeps
        rw [run_lookup_of_error hhit hask]
        exact ⟨hc, hkeeps⟩
      · rw [hask] at hkeeps
        rw [run_lookup_of_ok hhit hask]
        exact ⟨hc.store hsrc hs hask, hkeeps⟩
  cases r with
  | single o n =>
    refine (hlookup o [n]).bind fun m => ?_
    cases Table.get? n m with
    | some v => exact fun _ h => h
    | none => exact hthrough (.single o n)
  | batch o ns => exact (hlookup o ns).bind fun _ _ h => h
  | query o => exact hthrough (.query o)
  | invoke o op params => exact hthrough (.invoke o op params)

/-- **One read** of a polled attribute is answered with a value of its type: from the cache, or by one
batch for its object, which leaves its values behind. -/
theorem ask_cases (hsrc : src.Steady P collectors lockUsage) (hc : c.Complete collectors) (hs : P s)
    (hpolled : Polled collectors o n k) :
    ∃ v, k.Fits v ∧
      (c.Holds o [n] ∧ ((source src).ask (.single o n)).run (c, s) = (.ok v, c, s) ∨
      ¬ c.Holds o [n] ∧ ∃ m s', (src.ask (.batch o (c.wanted o [n]))).run s = (.ok m, s') ∧
        ((source src).ask (.single o n)).run (c, s) = (.ok v, c.store o (c.wanted o [n]) m, s')) := by
  cases hhit : c.hit? o [n] with
  | some m =>
    obtain ⟨hm, hall⟩ := hit?_eq_some_iff.1 hhit
    obtain ⟨v, hv⟩ := Option.isSome_iff_exists.1 (hall n (.head _))
    refine ⟨v, (hc o n k hpolled m hm).2 v hv, .inl ⟨holds_iff.2 ⟨m, hhit⟩, ?_⟩⟩
    exact run_one_of_ok (run_lookup_of_hit src hhit s) hv
  | none =>
    have hmiss : ¬ c.Holds o [n] := by simp [holds_iff, hhit]
    obtain ⟨m, s', hask⟩ := hsrc.answers hpolled (c.wanted o [n]) s hs
    obtain ⟨hhas, hfits⟩ := hsrc.told hpolled hs hask
    obtain ⟨v, hv⟩ := Option.isSome_iff_exists.1 (hhas.2 (mem_wanted (.head _)))
    refine ⟨v, hfits v hv, .inr ⟨hmiss, m, s', hask, ?_⟩⟩
    exact run_one_of_ok (run_lookup_of_ok hhit hask) hv

/-- A read of a polled attribute teaches its name. -/
theorem ask_learns (hsrc : src.Steady P collectors lockUsage) (hpolled : Polled collectors o n k) :
    Completes (fun y => y.1.Complete collectors ∧ P y.2) ((source src).ask (.single o n))
      fun v y => k.Fits v ∧ y.1.Learned o n ∧ y.1.Complete collectors ∧ P y.2 := by
  rintro ⟨c, s⟩ ⟨hc, hs⟩
  have hkeeps := ask_keeps_complete hsrc (.single o n) (c, s) ⟨hc, hs⟩
  obtain ⟨v, hv, ⟨⟨m, hm, hhas⟩, hrun⟩ | ⟨-, m, s', -, hrun⟩⟩ := ask_cases hsrc hc hs hpolled
  · rw [hrun] at hkeeps
    exact ⟨v, (c, s), hrun, hv, (hc o n k hpolled m hm).1.1 (hhas n (.head _)), hkeeps⟩
  · rw [hrun] at hkeeps
    refine ⟨v, _, hrun, hv, ?_, hkeeps⟩
    rw [learned_store, if_pos rfl]
    exact mem_wanted (.head _)

end Cache

end VmMonitor
