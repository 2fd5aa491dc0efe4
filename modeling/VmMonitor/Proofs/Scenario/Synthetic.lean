import VmMonitor.Proofs.Scenario.Generator

/-!
# What generated scenarios have in common

A generated scenario is random, so it is tested for what all of them have in common. Here it is proved
that the tests are no stricter than the generator: whatever the numbers are, a scenario passes them all.

## What is proved

* `Generator.Shows.isInRange`, `Generator.Shows.isPlain`, `Generator.follows_of_shows` — the tests of a
  sample, and of two that follow each other.
* `Generator.Made.isOrdinary`, `Generator.Generated.passes` — those of an instance and of a scenario.
* `Generator.generate_passes` — **all tests**, whatever the source is.
-/

namespace VmMonitor

/-- A relation is found to hold all along a list just if it does. -/
theorem Scenario.alongAll_iff {α : Type} {holds : α → α → Bool} {xs : List α} :
    alongAll holds xs ↔ xs.IsChain fun a b => holds a b := by
  induction xs with
  | nil => simp [alongAll]
  | cons a xs ih =>
    cases xs with
    | nil => simp [alongAll]
    | cons b xs => rw [alongAll, Bool.and_eq_true, ih, List.isChain_cons_cons]

namespace Generator

variable {heapMax processors : Int} {c c' : Counters} {x x' : Sample} {xs : List Sample}

/-! ### Samples -/

theorem length_numbered (id : Nat) (rows : List (Int × String)) :
    (numbered id rows).length = rows.length := by
  simpa using congrArg List.length (numbered_fixed id rows)

theorem Shows.length_threads (h : Shows heapMax c x) : x.threads.length = c.threadTimes.length := by
  simpa using congrArg List.length h.thread_ids

/-- The readings are in their ranges. -/
theorem Shows.isInRange (h : Shows heapMax c x) (hlow : 256 * megabyte ≤ heapMax)
    (hhigh : heapMax < 4096 * megabyte) : Scenario.isInRange x := by
  simp only [Scenario.isInRange, Bool.and_eq_true, decide_eq_true_eq, List.all_eq_true,
    List.contains_iff_mem, and_assoc]
  obtain ⟨heapUsed, nonHeapUsed, states, rfl, hused, hnon, -, hstates⟩ := h
  refine ⟨hlow, hhigh, hused.1, hused.2, hnon.1, hnon.2, fun t ht => hstates _ ?_⟩
  obtain ⟨n, row, -, hrow, rfl⟩ := mem_numbered ht
  exact (List.of_mem_zip hrow).2

/-- There is nothing but the readings. -/
theorem Shows.isPlain (h : Shows heapMax c x) (hheap : 0 ≤ heapMax) : Scenario.isPlain heapMax x := by
  obtain ⟨heapUsed, nonHeapUsed, states, rfl, -⟩ := h
  have hthreads (rows : List (Int × String)) :
      (numbered 1 rows).map (fun t => (t.id, t.name, t.lockOwner)) =
        (List.range (numbered 1 rows).length).map fun (n : Nat) =>
          ((n : Int) + 1, "worker-" ++ toString (n + 1), (-1 : Int)) := by
    rw [numbered_fixed, length_numbered, List.range'_eq_map_range, List.map_map]
    refine List.map_congr_left fun n _ => ?_
    simp [Nat.add_comm 1 n]
  simp [Scenario.isPlain, sample, hthreads, Int.tdiv_eq_ediv_of_nonneg hheap]

/-- The counters follow those of the sample before. -/
theorem follows_of_shows (hx : Shows heapMax c x) (hx' : Shows heapMax c' x')
    (h : c.Next processors c') : Scenario.follows processors x x' := by
  obtain ⟨huptime, ⟨busy, gc, hbusy, hbusy', hgc, hgc', hcpu, hgcTime, hgcCount⟩, hclasses, hthreads⟩ :=
    follows_of_next hx hx' h
  have hnew : x'.loadedClasses < x.loadedClasses + 5 := by
    obtain ⟨_, _, _, rfl, -⟩ := hx
    obtain ⟨_, _, _, rfl, -⟩ := hx'
    obtain ⟨_, _, -, -, -, -, hspent⟩ := h
    exact hspent.loadedClasses.2
  obtain ⟨hlength, hrise⟩ := List.forall₂_iff_zip.1 hthreads
  have hbusyNs : x'.cpuTimeNs - x.cpuTimeNs = busy * 1000000 := by omega
  have hgcMs : Scenario.gcTime x' - Scenario.gcTime x = gc := by omega
  have hall : busy * 1000000 ≤ processors * period * 1000000 := by
    rw [period]
    omega
  simp only [Scenario.follows, hbusyNs, hgcMs, Bool.and_eq_true, decide_eq_true_eq, List.all_eq_true,
    and_assoc]
  refine ⟨huptime, ?_, hall, ?_, hgc, ?_, hgcCount, ?_, ?_, hlength, fun _ ht => (hrise ht).2⟩
  all_goals omega

/-- What every sample passes that shows counters, all samples of a run pass. -/
theorem Run.all {p : Sample → Bool} (h : Run processors heapMax c xs)
    (hp : ∀ {c : Counters} {x : Sample}, Shows heapMax c x → p x) : xs.all p := by
  refine List.all_eq_true.2 fun x hx => ?_
  obtain ⟨c', hshows, -⟩ := h.shows hx
  exact hp hshows

/-! ### Instances -/

/-- The greatest of numbers that are all the same. -/
theorem foldl_max_of_forall_eq {k : Nat} {ns : List Nat} (h : ∀ n ∈ ns, n = k) (hns : ns ≠ []) :
    ns.foldl max 0 = k := by
  rw [List.foldl_max, List.eq_replicate_iff.2 ⟨rfl, h⟩,
    List.max?_replicate_of_pos (List.length_pos_iff.2 hns), Option.getD_some, Nat.zero_max]

variable {sampleCount threads : Nat} {i : ScenarioInstance}

namespace Made

theorem samples_ne_nil (h : Made sampleCount threads i) : i.samples ≠ [] := by
  have hlength := h.length
  exact List.ne_nil_of_length_pos (by omega)

/-- As many threads as were asked for are in every sample. -/
theorem threads_eq (h : Made sampleCount threads i) :
    (i.samples.map fun x => x.threads.length).foldl max 0 = threads := by
  obtain ⟨heapMax, c, -, -, hc, hrun, -⟩ := h.run
  refine foldl_max_of_forall_eq (List.forall_mem_map.2 fun x hx => ?_) (by simpa using h.samples_ne_nil)
  obtain ⟨c', hshows, hlength⟩ := hrun.shows hx
  rw [hshows.length_threads, hlength, hc.threadTimes]

/-- The counters rise all along. -/
theorem countersRise (h : Made sampleCount threads i) :
    Scenario.alongAll (Scenario.follows i.processors) i.samples := by
  obtain ⟨heapMax, c, -, -, -, hrun, -⟩ := h.run
  exact Scenario.alongAll_iff.2 (hrun.isChain_of follows_of_shows)

/-- All readings are in their ranges. -/
theorem inRange (h : Made sampleCount threads i) : i.samples.all Scenario.isInRange := by
  obtain ⟨heapMax, c, hlow, hhigh, -, hrun, -⟩ := h.run
  exact hrun.all fun hshows => hshows.isInRange hlow hhigh

/-- The instance is an ordinary one. -/
theorem isOrdinary (h : Made sampleCount threads i) : Scenario.isOrdinary i := by
  obtain ⟨heapMax, c, hlow, -, -, hrun, flavour, hflavour, hi⟩ := h.run
  -- the tests take the size of the heap from the first sample
  have hheap : ((i.samples.head?).map (·.heap.max)).getD 0 = heapMax := by
    obtain ⟨x, xs, hxs⟩ := List.exists_cons_of_ne_nil h.samples_ne_nil
    have hx : x ∈ i.samples := by simp [hxs]
    obtain ⟨c', ⟨_, _, _, rfl, -⟩, -⟩ := hrun.shows hx
    rw [hxs]
    rfl
  have hpositive : 0 ≤ heapMax := (by decide : 0 ≤ 256 * megabyte).trans hlow
  have hplain : i.samples.all (Scenario.isPlain heapMax) :=
    hrun.all fun hshows => hshows.isPlain hpositive
  have hflavours : flavours.any fun f =>
      properties i.displayName flavour = properties i.displayName f :=
    List.any_eq_true.2 ⟨flavour, hflavour, decide_eq_true rfl⟩
  have hname := h.displayName
  simp only [Scenario.isOrdinary, hheap, hplain]
  rw [hi]
  simp [hname, hflavours]

end Made

/-! ### Scenarios -/

/-- A scenario that is made so passes all tests. -/
theorem Generated.passes {instances : Nat} {s : Scenario}
    (h : Generated instances sampleCount threads s) :
    s.shape = List.replicate instances (max sampleCount 1, threads) ∧ s.pidsRise ∧ s.countersRise ∧
      s.inRange ∧ s.hasFixedValues := by
  refine ⟨?_, ?_, ?_, ?_, ?_⟩
  · refine List.eq_replicate_iff.2 ⟨by simpa [Scenario.shape] using h.length, ?_⟩
    rw [Scenario.shape, List.forall_mem_map]
    exact fun i hi => Prod.ext (h.made i hi).length (h.made i hi).threads_eq
  · rw [Scenario.pidsRise, Scenario.alongAll_iff]
    exact h.pids.imp fun p q hpq => by simpa using hpq
  · exact List.all_eq_true.2 fun i hi => (h.made i hi).countersRise
  · refine List.all_eq_true.2 fun i hi => ?_
    rw [Bool.and_eq_true]
    exact ⟨List.contains_iff_mem.2 (h.made i hi).processors, (h.made i hi).inRange⟩
  · rw [Scenario.hasFixedValues, h.discoveryFailsAt, Bool.and_eq_true]
    exact ⟨rfl, List.all_eq_true.2 fun i hi => (h.made i hi).isOrdinary⟩

/-- **All tests.** Whatever the source of numbers and the size are, a scenario comes of it that has that
size, and that all the tests for generated scenarios find in order. -/
theorem generate_passes {ρ : Type} (src : NumberSource ρ) (instances sampleCount threads : Nat) :
    (generate src instances sampleCount threads).Always fun s =>
      s.shape = List.replicate instances (max sampleCount 1, threads) ∧ s.pidsRise ∧
        s.countersRise ∧ s.inRange ∧ s.hasFixedValues :=
  (generate_always src instances sampleCount threads).mono fun _ h => h.passes

end Generator

end VmMonitor
