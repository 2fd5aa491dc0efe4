import Mathlib.Data.List.Chain
import Mathlib.Data.List.Forall2
import Mathlib.Tactic.Ring
import Mathlib.Tactic.SplitIfs
import VmMonitor.Proofs.Scenario
import VmMonitor.Scenario.Synthetic

/-!
# What is generated

The ranges of a generator depend on what it drew before: a time on a duration, a part of it on that
time, the use of a heap on its size. A draw from an empty range would fail. That no range is empty and
that counters rise is one statement about all sources of numbers, made of a rule for each way to put
draws together.

## The model

`Draw.Always` says that a draw succeeds whatever the numbers are, and that all it can give has a
property. Every choice of numbers is a source (`NumberSource.listed`), so a statement about all sources
is one about all choices.

## What is proved

* `Draw.always_bind`, `Draw.always_below`, `Draw.always_mapM`, … — the rules.
* `Generator.advance_always` — **the step**: from one sample to the next, the counters rise as those of
  a busy process do.
* `Generator.samples_always`, `Generator.Run.isChain` — the run: so they do all along.
* `Generator.Run.within` — how far they get.
* `Generator.generate_always`, `Generator.generate_sound` — **what is generated**, whatever the source
  is.
-/

namespace VmMonitor

/-! ### Draws that never fail -/

/-- The source that gives a list of numbers, and noughts behind it. -/
def NumberSource.listed : NumberSource (List Nat) where
  next
    | [] => (0, [])
    | n :: ns => (n, ns)

namespace Draw

variable {ρ α β : Type}

/-- Whatever the numbers are, the draw succeeds, and what comes of it has a property. -/
def Always (d : Draw ρ α) (p : α → Prop) : Prop :=
  ∀ r, ∃ a r', d r = some (a, r') ∧ p a

theorem Always.mono {d : Draw ρ α} {p q : α → Prop} (h : d.Always p) (hpq : ∀ a, p a → q a) :
    d.Always q := fun r =>
  let ⟨a, r', hd, ha⟩ := h r
  ⟨a, r', hd, hpq a ha⟩

theorem always_pure {a : α} {p : α → Prop} (h : p a) : (pure a : Draw ρ α).Always p :=
  fun r => ⟨a, r, rfl, h⟩

theorem always_bind {d : Draw ρ α} {f : α → Draw ρ β} {q : β → Prop}
    (h : d.Always fun a => (f a).Always q) : (d >>= f).Always q := by
  intro r
  obtain ⟨a, r', hd, ha⟩ := h r
  obtain ⟨b, r'', hf, hb⟩ := ha r'
  refine ⟨b, r'', ?_, hb⟩
  simp only [bind, StateT.bind, hd, Option.bind]
  exact hf

/-- A pass over a list gives a list of what each member can give. -/
theorem always_mapM {f : α → Draw ρ β} {rel : α → β → Prop} {xs : List α}
    (h : ∀ a ∈ xs, (f a).Always (rel a)) : (xs.mapM f).Always (List.Forall₂ rel xs) := by
  induction xs with
  | nil => simpa only [List.mapM_nil] using always_pure .nil
  | cons a xs ih =>
    rw [List.mapM_cons]
    refine always_bind ((h a (.head _)).mono fun b hb => ?_)
    refine always_bind ((ih fun a' ha' => h a' (.tail _ ha')).mono fun bs hbs => ?_)
    exact always_pure (.cons hb hbs)

variable (src : NumberSource ρ) {low high : Int}

theorem always_below (h : low < high) :
    (below src low high).Always fun x => low ≤ x ∧ x < high := by
  intro r
  have hmod := Nat.mod_lt (src.next r).1 (show 0 < (high - low).toNat by omega)
  refine ⟨low + ((src.next r).1 % (high - low).toNat : Nat), (src.next r).2, ?_, by omega, by omega⟩
  rw [below, if_pos h]

theorem always_upTo (h : low ≤ high) :
    (upTo src low high).Always fun x => low ≤ x ∧ x ≤ high :=
  (always_below src (by omega)).mono fun x hx => ⟨hx.1, by omega⟩

theorem always_oneOf {xs : List α} (h : xs ≠ []) : (oneOf src xs).Always (· ∈ xs) := by
  have hlength := List.length_pos_iff.2 h
  refine always_bind ((always_below src (by omega)).mono fun i hi => ?_)
  obtain ⟨a, ha⟩ : ∃ a, xs[i.toNat]? = some a := ⟨_, List.getElem?_eq_getElem (by omega)⟩
  rw [ha]
  exact always_pure (List.mem_of_getElem? ha)

/-- Any number of a range is drawn, whatever is drawn afterwards. -/
theorem below_listed {x : Int} (hlow : low ≤ x) (hhigh : x < high) (ns : List Nat) :
    below .listed low high ((x - low).toNat :: ns) = some (x, ns) := by
  have hmod : (x - low).toNat % (high - low).toNat = (x - low).toNat :=
    Nat.mod_eq_of_lt (by omega)
  simp only [below, if_pos (show low < high by omega), NumberSource.listed, hmod]
  congr 2
  omega

end Draw

namespace Generator

variable {ρ : Type} (src : NumberSource ρ)

/-! ### Counters -/

/-- Counters as they are before a first sample. -/
structure Counters.AtStart (threads : Nat) (c : Counters) : Prop where
  uptime : 60000 ≤ c.uptimeMs ∧ c.uptimeMs < 86400000
  cpuTime : 0 < c.cpuTimeNs ∧ c.cpuTimeNs < c.uptimeMs * 1000000
  gcTime : 0 ≤ c.gcTimeMs ∧ c.gcTimeMs < c.uptimeMs
  gcCount : 0 ≤ c.gcCount ∧ c.gcCount < 1000
  loadedClasses : 2000 ≤ c.loadedClasses ∧ c.loadedClasses < 20000
  threadTimes : c.threadTimes.length = threads
  threadTime : ∀ t ∈ c.threadTimes, 0 ≤ t ∧ t < c.cpuTimeNs

/-- How counters get on in a period of which `busy` milliseconds were spent, `gc` of them on the
collection of garbage. -/
structure Counters.Spent (busy gc : Int) (c c' : Counters) : Prop where
  uptime : c'.uptimeMs = c.uptimeMs + period
  cpuTime : c'.cpuTimeNs = c.cpuTimeNs + busy * 1000000
  gcTime : c'.gcTimeMs = c.gcTimeMs + gc
  gcCount : c'.gcCount = c.gcCount + if 0 < gc then 1 else 0
  loadedClasses : c.loadedClasses ≤ c'.loadedClasses ∧ c'.loadedClasses < c.loadedClasses + 5
  threadTimes : List.Forall₂ (fun t t' => t ≤ t' ∧ t' ≤ t + max busy 1 * 1000000)
    c.threadTimes c'.threadTimes

/-- How counters get on from one sample to the next: no more is spent than the processors have. -/
def Counters.Next (processors : Int) (c c' : Counters) : Prop :=
  ∃ busy gc, 0 ≤ busy ∧ busy ≤ period * processors ∧ 0 ≤ gc ∧ gc ≤ busy / 10 ∧ c.Spent busy gc c'

theorem exists_left_of_forall₂ {α β : Type} {rel : α → β → Prop} {xs : List α} {ys : List β}
    (h : List.Forall₂ rel xs ys) {y : β} (hy : y ∈ ys) : ∃ x ∈ xs, rel x y := by
  induction h with
  | nil => cases hy
  | cons hrel _ ih =>
    obtain rfl | hy := List.mem_cons.1 hy
    · exact ⟨_, .head _, hrel⟩
    · obtain ⟨x, hx, h⟩ := ih hy
      exact ⟨x, .tail _ hx, h⟩

theorem start_always (threads : Nat) : (start src threads).Always (Counters.AtStart threads) := by
  refine Draw.always_bind ((Draw.always_below src (by decide)).mono fun uptime huptime => ?_)
  have hhundredth : uptime.tdiv 100 = uptime / 100 := Int.tdiv_eq_ediv_of_nonneg (by omega)
  refine Draw.always_bind ((Draw.always_below src (by omega)).mono fun cpu hcpu => ?_)
  refine Draw.always_bind ((Draw.always_below src (by omega)).mono fun gcTime hgcTime => ?_)
  refine Draw.always_bind ((Draw.always_below src (by decide)).mono fun gcCount hgcCount => ?_)
  refine Draw.always_bind ((Draw.always_below src (by decide)).mono fun classes hclasses => ?_)
  refine Draw.always_bind ((Draw.always_mapM fun _ _ =>
    Draw.always_below src (by omega)).mono fun times htimes => ?_)
  refine Draw.always_pure ⟨huptime, by dsimp only; omega, by dsimp only; omega, hgcCount, hclasses,
    ?_, fun t ht => ?_⟩
  · simpa using htimes.length_eq.symm
  · obtain ⟨_, _, h⟩ := exists_left_of_forall₂ htimes ht
    dsimp only
    omega

theorem thread_always (busyMs : Int) (threads : Nat) (time : Int) :
    (thread src busyMs threads time).Always fun (time', state) =>
      (time ≤ time' ∧ time' ≤ time + max busyMs 1 * 1000000) ∧ state ∈ threadStates := by
  refine Draw.always_bind ((Draw.always_upTo src (by omega)).mono fun spent hspent => ?_)
  refine Draw.always_bind ((Draw.always_oneOf src (by decide)).mono fun state hstate => ?_)
  have hshare : 0 ≤ (spent * 1000000).tdiv (max threads 1 : Nat) :=
    Int.tdiv_nonneg (by omega) (by omega)
  have hwhole : (spent * 1000000).tdiv (max threads 1 : Nat) ≤ spent * 1000000 :=
    Int.tdiv_le_self _ (by omega)
  exact Draw.always_pure ⟨by omega, hstate⟩

/-- **The step.** No range is empty, and the counters rise as those of a busy process do. -/
theorem advance_always {processors : Int} (hprocessors : 0 ≤ processors) (c : Counters) :
    (advance src processors c).Always fun (c', states) => c.Next processors c' ∧
      states.length = c'.threadTimes.length ∧ ∀ s ∈ states, s ∈ threadStates := by
  have hperiod : 0 ≤ period * processors := Int.mul_nonneg (by decide) hprocessors
  refine Draw.always_bind ((Draw.always_upTo src hperiod).mono fun busy hbusy => ?_)
  have htenth : busy.tdiv 10 = busy / 10 := Int.tdiv_eq_ediv_of_nonneg hbusy.1
  refine Draw.always_bind ((Draw.always_upTo src (by omega)).mono fun gc hgc => ?_)
  refine Draw.always_bind ((Draw.always_below src (by decide)).mono fun classes hclasses => ?_)
  refine Draw.always_bind ((Draw.always_mapM fun time _ =>
    thread_always src busy _ time).mono fun threads hthreads => ?_)
  refine Draw.always_pure ⟨⟨busy, gc, hbusy.1, hbusy.2, hgc.1, htenth ▸ hgc.2, ?_⟩, ?_, ?_⟩
  · refine ⟨rfl, rfl, rfl, ?_, ?_, ?_⟩
    · dsimp only
      split_ifs <;> omega
    · dsimp only
      omega
    · exact List.forall₂_map_right_iff.2 (hthreads.imp fun _ _ h => h.1)
  · simp
  · intro s hs
    obtain ⟨t, ht, rfl⟩ := List.mem_map.1 hs
    obtain ⟨_, _, h⟩ := exists_left_of_forall₂ hthreads ht
    exact h.2

/-! ### Samples -/

/-- The sample shows the counters, with readings in their ranges. -/
def Shows (heapMax : Int) (c : Counters) (x : Sample) : Prop :=
  ∃ heapUsed nonHeapUsed states, x = sample heapMax heapUsed nonHeapUsed c states ∧
    (megabyte ≤ heapUsed ∧ heapUsed < heapMax) ∧
    (20 * megabyte ≤ nonHeapUsed ∧ nonHeapUsed < 200 * megabyte) ∧
    states.length = c.threadTimes.length ∧ ∀ s ∈ states, s ∈ threadStates

/-- Samples that show counters as they get on. -/
inductive Run (processors heapMax : Int) : Counters → List Sample → Prop
  | nil {c : Counters} : Run processors heapMax c []
  | cons {c c' : Counters} {x : Sample} {xs : List Sample} :
    c.Next processors c' → Shows heapMax c' x → Run processors heapMax c' xs →
      Run processors heapMax c (x :: xs)

theorem samples_always {heapMax processors : Int} (hheap : megabyte < heapMax)
    (hprocessors : 0 ≤ processors) (n : Nat) (c : Counters) :
    (samples src heapMax processors n c).Always fun xs =>
      xs.length = n ∧ Run processors heapMax c xs := by
  induction n generalizing c with
  | zero => exact Draw.always_pure ⟨rfl, .nil⟩
  | succ n ih =>
    refine Draw.always_bind ((advance_always src hprocessors c).mono fun (c', states) hc => ?_)
    refine Draw.always_bind ((Draw.always_below src hheap).mono fun heapUsed hused => ?_)
    refine Draw.always_bind ((Draw.always_below src (by decide)).mono fun nonHeapUsed hnon => ?_)
    refine Draw.always_bind ((ih c').mono fun xs hxs => ?_)
    exact Draw.always_pure ⟨congrArg (· + 1) hxs.1,
      .cons hc.1 ⟨heapUsed, nonHeapUsed, states, rfl, hused, hnon, hc.2⟩ hxs.2⟩

/-! ### What samples show -/

/-- What a sample owes to the one before it. -/
structure Follows (processors : Int) (a b : Sample) : Prop where
  uptime : b.uptimeMs = a.uptimeMs + 1000
  /-- Of `busy` milliseconds spent, up to a tenth went into the collection of garbage, in one run if it
  was any time at all. -/
  spent : ∃ busy gc : Int, 0 ≤ busy ∧ busy ≤ 1000 * processors ∧ 0 ≤ gc ∧ gc ≤ busy / 10 ∧
    b.cpuTimeNs = a.cpuTimeNs + busy * 1000000 ∧
      Scenario.gcTime b = Scenario.gcTime a + gc ∧
        Scenario.gcCount b = Scenario.gcCount a + if 0 < gc then 1 else 0
  loadedClasses : a.loadedClasses ≤ b.loadedClasses
  threads : List.Forall₂ (fun t u => t.id = u.id ∧ t.cpuTimeNs ≤ u.cpuTimeNs) a.threads b.threads

/-- The threads of a sample are numbered one after the other, and named after their numbers. -/
theorem numbered_fixed (id : Nat) (rows : List (Int × String)) :
    (numbered id rows).map (fun t => (t.id, t.name, t.lockOwner)) =
      (List.range' id rows.length).map fun (n : Nat) => ((n : Int), "worker-" ++ toString n, -1) := by
  induction rows generalizing id with
  | nil => rfl
  | cons row rows ih => simp [numbered, ih, List.range'_succ]

/-- What a numbered thread is made of. -/
theorem mem_numbered {id : Nat} {rows : List (Int × String)} {t : ScenarioThread}
    (h : t ∈ numbered id rows) : ∃ n row, n < id + rows.length ∧ row ∈ rows ∧
      t = { id := (n : Nat), name := "worker-" ++ toString n, state := row.2, cpuTimeNs := row.1 } := by
  induction rows generalizing id with
  | nil => cases h
  | cons row rows ih =>
    obtain rfl | h := List.mem_cons.1 h
    · exact ⟨id, row, by simp, .head _, rfl⟩
    · obtain ⟨n, row', hn, hrow, rfl⟩ := ih h
      exact ⟨n, row', by simp only [List.length_cons]; omega, .tail _ hrow, rfl⟩

theorem numbered_ids (id : Nat) (rows : List (Int × String)) :
    (numbered id rows).map (·.id) = (List.range' id rows.length).map fun (n : Nat) => (n : Int) := by
  simpa [Function.comp_def] using congrArg (List.map (·.1)) (numbered_fixed id rows)

/-- Times that do not fall are shown by threads whose times do not fall, whatever their states. -/
theorem numbered_rise {rel : Int → Int → Prop} {times times' : List Int}
    (h : List.Forall₂ rel times times') {states states' : List String}
    (hstates : states.length = times.length) (hstates' : states'.length = times'.length) (id : Nat) :
    List.Forall₂ (fun t u => t.id = u.id ∧ rel t.cpuTimeNs u.cpuTimeNs)
      (numbered id (times.zip states)) (numbered id (times'.zip states')) := by
  induction h generalizing states states' id with
  | nil => exact .nil
  | cons hrel _ ih =>
    obtain ⟨state, states, rfl⟩ := List.exists_cons_of_length_eq_add_one hstates
    obtain ⟨state', states', rfl⟩ := List.exists_cons_of_length_eq_add_one hstates'
    exact .cons ⟨rfl, hrel⟩ (ih (by simpa using hstates) (by simpa using hstates') (id + 1))

variable {heapMax processors : Int} {c c' : Counters} {x x' : Sample} {xs : List Sample}

/-- Samples follow each other as the counters do that they show. -/
theorem follows_of_next (hx : Shows heapMax c x) (hx' : Shows heapMax c' x')
    (h : c.Next processors c') : Follows processors x x' := by
  obtain ⟨heapUsed, nonHeapUsed, states, rfl, -, -, hstates, -⟩ := hx
  obtain ⟨heapUsed', nonHeapUsed', states', rfl, -, -, hstates', -⟩ := hx'
  obtain ⟨busy, gc, hbusy, hbusy', hgc, hgc', h⟩ := h
  refine ⟨h.uptime, ⟨busy, gc, hbusy, hbusy', hgc, hgc', h.cpuTime, ?_, ?_⟩, h.loadedClasses.1, ?_⟩
  · simp [Scenario.gcTime, sample, h.gcTime]
  · simp [Scenario.gcCount, sample, h.gcCount]
  · exact numbered_rise (h.threadTimes.imp fun _ _ ht => ht.1) hstates hstates' 1

theorem length_threads_of_next (h : c.Next processors c') :
    c'.threadTimes.length = c.threadTimes.length := by
  obtain ⟨busy, gc, -, -, -, -, h⟩ := h
  exact h.threadTimes.length_eq.symm

/-- **The run.** What is so of samples whose counters follow each other is so all along. -/
theorem Run.isChain_of {rel : Sample → Sample → Prop}
    (hrel : ∀ {c c' : Counters} {x x' : Sample}, Shows heapMax c x → Shows heapMax c' x' →
      c.Next processors c' → rel x x') (h : Run processors heapMax c xs) : xs.IsChain rel := by
  induction h with
  | nil => exact .nil
  | @cons c c' x xs _ hx hrun ih =>
    refine List.isChain_cons.2 ⟨fun x' hx' => ?_, ih⟩
    cases hrun with
    | nil => cases hx'
    | cons hnext hshows _ =>
      obtain rfl := Option.some.inj hx'
      exact hrel hx hshows hnext

/-- Each sample follows the one before it. -/
theorem Run.isChain (h : Run processors heapMax c xs) : xs.IsChain (Follows processors) :=
  h.isChain_of follows_of_next

/-- Every sample shows as many threads as there are counters for. -/
theorem Run.shows (h : Run processors heapMax c xs) (hx : x ∈ xs) :
    ∃ c', Shows heapMax c' x ∧ c'.threadTimes.length = c.threadTimes.length := by
  induction h with
  | nil => cases hx
  | @cons c c' x' xs hnext hshows _ ih =>
    have hlength := length_threads_of_next hnext
    obtain rfl | hx := List.mem_cons.1 hx
    · exact ⟨c', hshows, hlength⟩
    · obtain ⟨c'', hshows', hlength'⟩ := ih hx
      exact ⟨c'', hshows', hlength'.trans hlength⟩

/-! ### How far counters get -/

/-- No counter is beyond this in the `n`-th sample: a day, and eight seconds of work for each sample, in
nanoseconds. -/
def limit (n : Nat) : Int := (86400000 + 8000 * n) * 1000000

/-- No counter is negative or beyond the limit. -/
structure Counters.Within (n : Nat) (c : Counters) : Prop where
  uptime : 0 ≤ c.uptimeMs ∧ c.uptimeMs ≤ limit n
  cpuTime : 0 ≤ c.cpuTimeNs ∧ c.cpuTimeNs ≤ limit n
  gcTime : 0 ≤ c.gcTimeMs ∧ c.gcTimeMs ≤ limit n
  gcCount : 0 ≤ c.gcCount ∧ c.gcCount ≤ limit n
  loadedClasses : 0 ≤ c.loadedClasses ∧ c.loadedClasses ≤ limit n
  threadTime : ∀ t ∈ c.threadTimes, 0 ≤ t ∧ t ≤ limit n

theorem Counters.AtStart.within {threads : Nat} (h : c.AtStart threads) : c.Within 0 := by
  obtain ⟨huptime, hcpu, hgc, hcount, hclasses, -, htimes⟩ := h
  constructor
  case threadTime =>
    intro t ht
    have := htimes t ht
    simp only [limit]
    omega
  all_goals
    simp only [limit]
    omega

theorem within_of_next (hprocessors : processors ≤ 8) {n : Nat} (h : c.Next processors c')
    (hc : c.Within n) : c'.Within (n + 1) := by
  obtain ⟨busy, gc, hbusy, hbusy', hgc, hgc', h⟩ := h
  have hperiod : period = 1000 := rfl
  rw [hperiod] at hbusy'
  have hlimit : limit (n + 1) = limit n + 8000 * 1000000 := by
    simp only [limit, Nat.cast_add, Nat.cast_one]
    ring
  have hcount : (if 0 < gc then 1 else 0 : Int) = 0 ∨ (if 0 < gc then 1 else 0 : Int) = 1 := by
    split_ifs <;> simp
  obtain ⟨huptime, hcpu, hgcTime, hgcCount, hclasses, htimes⟩ := h
  obtain ⟨huptime', hcpu', hgcTime', hgcCount', hclasses', htimes'⟩ := hc
  constructor
  case threadTime =>
    intro t ht
    obtain ⟨t', ht', hrise⟩ := exists_left_of_forall₂ htimes ht
    have := htimes' t' ht'
    omega
  all_goals omega

theorem limit_mono {m n : Nat} (h : m ≤ n) : limit m ≤ limit n := by
  simp only [limit]
  omega

theorem Counters.Within.mono {m n : Nat} (h : m ≤ n) (hc : c.Within m) : c.Within n := by
  have hlimit := limit_mono h
  obtain ⟨huptime, hcpu, hgc, hcount, hclasses, htimes⟩ := hc
  constructor
  case threadTime =>
    intro t ht
    have := htimes t ht
    omega
  all_goals omega

/-- What is shown in a run is within the limit of its length. -/
theorem Run.within (h : Run processors heapMax c xs) (hprocessors : processors ≤ 8) {n : Nat}
    (hc : c.Within n) (hx : x ∈ xs) : ∃ c', Shows heapMax c' x ∧ c'.Within (n + xs.length) ∧
      c'.threadTimes.length = c.threadTimes.length := by
  induction h generalizing n with
  | nil => cases hx
  | @cons c c' x' xs hnext hshows _ ih =>
    have hwithin := within_of_next hprocessors hnext hc
    have hlength := length_threads_of_next hnext
    rw [List.length_cons]
    obtain rfl | hx := List.mem_cons.1 hx
    · exact ⟨c', hshows, hwithin.mono (by omega), hlength⟩
    · obtain ⟨c'', hshows', hwithin', hlength'⟩ := ih hwithin hx
      exact ⟨c'', hshows', hwithin'.mono (by omega), hlength'.trans hlength⟩

/-- Up to a thousand million samples, every counter fits in 64 bits with a sign. -/
theorem limit_lt {n : Nat} (h : n ≤ 1000000000) : limit n < 2 ^ 63 := by
  simp only [limit]
  omega

/-! ### What every sample shows -/

theorem Shows.thread_ids (h : Shows heapMax c x) : x.threads.map (·.id) =
    (List.range' 1 c.threadTimes.length).map fun (n : Nat) => (n : Int) := by
  obtain ⟨heapUsed, nonHeapUsed, states, rfl, -, -, hstates, -⟩ := h
  rw [sample, numbered_ids, List.length_zip, hstates, Nat.min_self]

theorem Shows.heap (h : Shows heapMax c x) : x.heap.used < x.heap.max := by
  obtain ⟨heapUsed, nonHeapUsed, states, rfl, hused, -⟩ := h
  exact hused.2

/-! ### Instances -/

/-- What an instance is made of. -/
structure Made (sampleCount threads : Nat) (i : ScenarioInstance) : Prop where
  displayName : i.displayName ∈ mainClasses
  processors : i.processors ∈ processorCounts
  length : i.samples.length = max sampleCount 1
  made : ∃ flavour ∈ flavours, ∃ size : Int, 256 ≤ size ∧ size < 4096 ∧ ∃ c : Counters,
    c.AtStart threads ∧ Run i.processors (size * megabyte) c i.samples ∧ i = {
      pid := i.pid
      displayName := i.displayName
      processors := i.processors
      systemProperties := properties i.displayName flavour
      inputArguments := arguments i.pid (size * megabyte)
      samples := i.samples }

/-- Counters run through the samples of an instance, with one size of the heap. -/
theorem Made.run {sampleCount threads : Nat} {i : ScenarioInstance} (h : Made sampleCount threads i) :
    ∃ heapMax c, 256 * megabyte ≤ heapMax ∧ heapMax < 4096 * megabyte ∧ c.AtStart threads ∧
      Run i.processors heapMax c i.samples ∧ ∃ flavour ∈ flavours, i = {
        pid := i.pid
        displayName := i.displayName
        processors := i.processors
        systemProperties := properties i.displayName flavour
        inputArguments := arguments i.pid heapMax
        samples := i.samples } := by
  obtain ⟨-, -, -, flavour, hflavour, size, hlow, hhigh, c, hc, hrun, hi⟩ := h
  have hmegabyte : 0 < megabyte := by decide
  refine ⟨size * megabyte, c, ?_, ?_, hc, hrun, flavour, hflavour, hi⟩
  · exact Int.mul_le_mul_of_nonneg_right hlow hmegabyte.le
  · exact Int.mul_lt_mul_of_pos_right hhigh hmegabyte

theorem generateInstance_always (pid sampleCount threads : Nat) :
    (generateInstance src pid sampleCount threads).Always fun i =>
      i.pid = pid ∧ Made sampleCount threads i := by
  refine Draw.always_bind ((Draw.always_oneOf src (by decide)).mono fun name hname => ?_)
  refine Draw.always_bind ((Draw.always_oneOf src (by decide)).mono fun flavour hflavour => ?_)
  refine Draw.always_bind ((Draw.always_oneOf src (by decide)).mono fun processors hprocessors => ?_)
  have hpositive : 0 ≤ processors :=
    (by decide : ∀ n ∈ processorCounts, (0 : Int) ≤ n) processors hprocessors
  refine Draw.always_bind ((Draw.always_below src (by decide)).mono fun size hsize => ?_)
  have hheap : megabyte < size * megabyte := by
    rw [megabyte]
    omega
  refine Draw.always_bind ((start_always src threads).mono fun c hc => ?_)
  refine Draw.always_bind ((samples_always src hheap hpositive _ c).mono fun xs hxs => ?_)
  exact Draw.always_pure ⟨rfl, hname, hprocessors, hxs.1, flavour, hflavour, size, hsize.1, hsize.2,
    c, hc, hxs.2, rfl⟩

theorem generateInstances_always (sampleCount threads n pid : Nat) :
    (generateInstances src sampleCount threads n pid).Always fun is =>
      is.length = n ∧ (pid :: is.map (·.pid)).IsChain (fun p q => p < q ∧ q < p + 500) ∧
        ∀ i ∈ is, Made sampleCount threads i := by
  induction n generalizing pid with
  | zero => exact Draw.always_pure ⟨rfl, .singleton _, List.forall_mem_nil _⟩
  | succ n ih =>
    refine Draw.always_bind ((Draw.always_below src (by decide)).mono fun step hstep => ?_)
    refine Draw.always_bind ((generateInstance_always src (pid + step.toNat) sampleCount
      threads).mono fun i hi => ?_)
    refine Draw.always_bind ((ih (pid + step.toNat)).mono fun is his => ?_)
    obtain ⟨hpid, hmade⟩ := hi
    obtain ⟨hlength, hrise, hall⟩ := his
    refine Draw.always_pure ⟨congrArg (· + 1) hlength, ?_, List.forall_mem_cons.2 ⟨hmade, hall⟩⟩
    rw [List.map_cons, hpid]
    exact .cons_cons (by omega) hrise

/-! ### Scenarios -/

/-- Process ids that rise by less than five hundred are below that many times their count. -/
theorem le_of_rise {pid p : Nat} {pids : List Nat}
    (h : (pid :: pids).IsChain fun p q => p < q ∧ q < p + 500) (hp : p ∈ pids) :
    p ≤ pid + 499 * pids.length := by
  induction pids generalizing pid with
  | nil => cases hp
  | cons q pids ih =>
    obtain ⟨hq, h⟩ := List.isChain_cons_cons.1 h
    rw [List.length_cons]
    obtain rfl | hp := List.mem_cons.1 hp
    · omega
    · have := ih h hp
      omega

/-- What a scenario of a size is like. -/
structure Generated (instances sampleCount threads : Nat) (s : Scenario) : Prop where
  discoveryFailsAt : s.discoveryFailsAt = none
  length : s.instances.length = instances
  pids : (firstPid :: s.instances.map (·.pid)).IsChain (fun p q => p < q ∧ q < p + 500)
  made : ∀ i ∈ s.instances, Made sampleCount threads i

theorem generate_always (instances sampleCount threads : Nat) :
    (generate src instances sampleCount threads).Always (Generated instances sampleCount threads) := by
  refine Draw.always_bind ((generateInstances_always src sampleCount threads instances
    firstPid).mono fun is his => ?_)
  exact Draw.always_pure ⟨rfl, his.1, his.2.1, his.2.2⟩

theorem Generated.pairwise {instances sampleCount threads : Nat} {s : Scenario}
    (h : Generated instances sampleCount threads s) :
    (s.instances.map (·.pid)).Pairwise (· < ·) := by
  have hrise := (h.pids.imp fun _ _ hpq => hpq.1).pairwise
  exact (List.pairwise_cons.1 hrise).2

/-- **What is generated.** Whatever the source of numbers is, a scenario of the asked size comes of it,
which is valid, with process ids that rise and fit in 32 bits if they are not too many. Every instance
has the samples asked for, at least one; each follows the one before it, and shows the threads asked for
and a heap that is not used up. -/
theorem generate_sound (instances sampleCount threads : Nat) (r : ρ)
    (h : firstPid + 499 * instances < 2 ^ 32) :
    ∃ s r', generate src instances sampleCount threads r = some (s, r') ∧ s.validate = .ok s ∧
      s.instances.length = instances ∧ (s.instances.map (·.pid)).Pairwise (· < ·) ∧
      ∀ i ∈ s.instances, i.pid < 2 ^ 32 ∧ i.samples.length = max sampleCount 1 ∧
        i.samples.IsChain (Follows i.processors) ∧
        ∀ x ∈ i.samples, x.threads.map (·.id) =
            (List.range' 1 threads).map (fun (n : Nat) => (n : Int)) ∧
          x.heap.used < x.heap.max := by
  obtain ⟨s, r', hs, hgenerated⟩ := generate_always src instances sampleCount threads r
  refine ⟨s, r', hs, ?_, hgenerated.length, hgenerated.pairwise, fun i hi => ?_⟩
  · exact Scenario.validate_eq_ok_iff.2 (hgenerated.pairwise.imp fun hlt => Nat.ne_of_lt hlt)
  · have hpid := le_of_rise hgenerated.pids (List.mem_map_of_mem hi)
    rw [List.length_map, hgenerated.length] at hpid
    obtain ⟨heapMax, c, -, -, hc, hrun, -⟩ := (hgenerated.made i hi).run
    refine ⟨Nat.lt_of_le_of_lt hpid h, (hgenerated.made i hi).length, hrun.isChain, fun x hx => ?_⟩
    obtain ⟨c', hshows, hthreads⟩ := hrun.shows hx
    rw [hshows.thread_ids, hthreads, hc.threadTimes]
    exact ⟨rfl, hshows.heap⟩

/-- Two instances with three samples each. -/
theorem generate_sound_of_two : ∃ s r', generate .congruential 2 3 2 7 = some (s, r') ∧
    s.validate = .ok s ∧ s.instances.length = 2 ∧
      ∀ i ∈ s.instances, i.samples.length = 3 ∧ i.samples.IsChain (Follows i.processors) := by
  obtain ⟨s, r', hs, hvalid, hlength, -, hall⟩ :=
    generate_sound .congruential 2 3 2 7 (by decide : firstPid + 499 * 2 < 2 ^ 32)
  exact ⟨s, r', hs, hvalid, hlength, fun i hi => ⟨(hall i hi).2.1, (hall i hi).2.2.1⟩⟩

end Generator

end VmMonitor
