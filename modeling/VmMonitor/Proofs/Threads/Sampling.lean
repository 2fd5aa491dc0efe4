import VmMonitor.Peer.Script
import VmMonitor.Proofs.Threads.Ranking

/-!
# Taking over the times of the threads

A reading of the threads asks for many things, one after the other, and may fail at each of them. It
has one place where the tracker changes: after the time of the last thread, and before the first
thread is looked up. A reading that fails before leaves the tracker as it was, and one that fails later
has taken over all the times already. There is nothing in between, since what has been collected so far
is not the tracker's.

The ranked threads are looked up after that. Whoever is gone by then has no row, and nobody moves up.

## What is proved

* `ThreadTracker.readTimes_eq_error_iff` — where collecting the times may stop.
* `ThreadTracker.Collects.run_readAll`, `ThreadTracker.exists_collects` — one of the ways in which the
  collecting may end is the case.
* `ThreadTracker.thread_sampling` — **the retained times and the rows**, whatever fails.
-/

namespace VmMonitor

open Exchange

/-- The times of the given threads, and of no other thread. If a thread is given more than once, its
last reading counts. -/
structure ThreadTimes.Complete (tids ns : List Int) (times : ThreadTimes) : Prop where
  pairwise_keys : (Table.keys times).Pairwise (· < ·)
  has_iff : ∀ tid, Table.has tid times ↔ tid ∈ tids
  get?_eq : ∀ tid, Table.get? tid times = Table.get? tid (tids.zip ns).reverse

namespace ThreadTimes.Complete

theorem ofList {tids ns : List Int} (h : tids.length = ns.length) :
    Complete tids ns (Table.ofList (tids.zip ns)) := by
  refine ⟨Table.pairwise_keys_ofList _, fun tid => ?_, fun tid => Table.get?_ofList tid _⟩
  have hfst : (tids.zip ns).map Prod.fst = tids := List.map_fst_zip (Nat.le_of_eq h)
  rw [Table.has_ofList]
  constructor
  · rintro ⟨n, hn⟩
    exact (List.of_mem_zip hn).1
  · intro htid
    rw [← hfst] at htid
    obtain ⟨⟨_, n⟩, hn, rfl⟩ := List.mem_map.1 htid
    exact ⟨n, hn⟩

/-- There is no other complete table. -/
theorem unique {tids ns : List Int} {times times' : ThreadTimes} (h : times.Complete tids ns)
    (h' : times'.Complete tids ns) : times = times' :=
  Table.eq_of_get?_eq h.pairwise_keys h'.pairwise_keys fun tid =>
    (h.get?_eq tid).trans (h'.get?_eq tid).symm

end ThreadTimes.Complete

/-- The row of the ranked thread `entry`, which was described as `info`: its shares are those of its own
two times. -/
structure ThreadRow.Shows (previous current : ThreadTimes) (uptimeMs processNs : Int)
    (entry : Int × Int) (info : ThreadInfo) (row : ThreadRow) : Prop where
  tid : row.tid = entry.1
  name : row.name = info.name
  state : row.state = info.state
  blockedBy_iff : ∀ owner, row.blockedBy = some owner ↔ owner = info.lockOwner ∧ 0 ≤ owner
  shares : ∃ before now, Table.get? entry.1 previous = some before ∧
    Table.get? entry.1 current = some now ∧ entry.2 = Counter.sub now before ∧
    row.cpuPercent = cyclePercent (Counter.sub now before) uptimeMs ∧
    row.totalCpuPercent = lifetimePercent now processNs

namespace ThreadTracker

/-- The report on ranked threads: one row for each that is there, in the order of the ranking. -/
structure Reports (previous current : ThreadTimes) (uptimeMs processNs : Int) (ranking : ThreadRanking)
    (infos : List (Option ThreadInfo)) (report : ThreadReport) : Prop where
  rows : List.Forall₂ (fun x row => row.Shows previous current uptimeMs processNs x.1 x.2)
    (present ranking.entries infos) report.rows
  tids_sublist : (report.rows.map (·.tid)).Sublist (ranking.entries.map Prod.fst)
  tids_nodup : (report.rows.map (·.tid)).Nodup
  truncated : report.truncated = ranking.truncated
  supported : report.cpuTimeSupported = true

section

variable {σ : Type} (src : Source σ)

/-- How the collecting of the times may end: with the times of all threads, or without any, because
CPU times are not supported or something that is asked for is not told. The state is the one it leaves
behind. -/
inductive Collects (s : σ) : Option ThreadTimes → σ → Prop
  | all {tids ns : List Int} {times : ThreadTimes} {s₁ s₂ s₃ : σ} :
      src.threadCpuTimeSupported.run s = (.ok true, s₁) → src.threadIds.run s₁ = (.ok tids, s₂) →
      InTurn src.threadCpuTime tids s₂ ns s₃ → times.Complete tids ns → Collects s (some times) s₃
  | unsupported {s₁ : σ} : src.threadCpuTimeSupported.run s = (.ok false, s₁) → Collects s none s₁
  | support_untold {e : ConnectionError} {s₁ : σ} :
      src.threadCpuTimeSupported.run s = (.error e, s₁) → Collects s none s₁
  | ids_untold {e : ConnectionError} {s₁ s₂ : σ} :
      src.threadCpuTimeSupported.run s = (.ok true, s₁) → src.threadIds.run s₁ = (.error e, s₂) →
      Collects s none s₂
  | time_untold {earlier later ns : List Int} {tid : Int} {e : ConnectionError} {s₁ s₂ s₃ s₄ : σ} :
      src.threadCpuTimeSupported.run s = (.ok true, s₁) →
      src.threadIds.run s₁ = (.ok (earlier ++ tid :: later), s₂) →
      InTurn src.threadCpuTime earlier s₂ ns s₃ → (src.threadCpuTime tid).run s₃ = (.error e, s₄) →
      Collects s none s₄

/-! ### Collecting the times -/

/-- The times of some threads cannot be read just when one of them cannot, after all those before it. -/
theorem readTimes_eq_error_iff {tids : List Int} {times : ThreadTimes} {s s' : σ}
    {e : ConnectionError} :
    (readTimes src tids times).run s = (.error e, s') ↔ ∃ earlier tid later ns s₁,
      tids = earlier ++ tid :: later ∧ InTurn src.threadCpuTime earlier s ns s₁ ∧
        (src.threadCpuTime tid).run s₁ = (.error e, s') := by
  induction tids generalizing times s with
  | nil =>
    constructor
    · exact nofun
    · rintro ⟨earlier, tid, later, ns, s₁, h, -⟩
      cases earlier <;> cases h
  | cons tid tids ih =>
    constructor
    · intro h
      rcases run_bind_eq_error.1 h with hfails | ⟨n, s₁, hn, hrest⟩
      · exact ⟨[], tid, tids, [], s, rfl, .nil s, hfails⟩
      · obtain ⟨earlier, tid', later, ns, s₂, rfl, hturn, hfails⟩ := ih.1 hrest
        exact ⟨tid :: earlier, tid', later, n :: ns, s₂, rfl, .cons hn hturn, hfails⟩
    · rintro ⟨earlier, tid', later, ns, s₁, h, hturn, hfails⟩
      cases hturn with
      | nil =>
        cases h
        exact run_bind_eq_error.2 (.inl hfails)
      | cons hn hturn =>
        cases h
        exact run_bind_eq_error.2 (.inr ⟨_, _, hn, ih.2 ⟨_, _, _, _, _, rfl, hturn, hfails⟩⟩)

variable {src} in
theorem Collects.run_readAll {s s' : σ} {current : Option ThreadTimes}
    (h : Collects src s current s') :
    ∃ result, (readAll src).run s = (result, s') ∧ result.toOption.join = current := by
  cases h with
  | @all tids ns times s₁ s₂ _ hsupported htids hturn hcomplete =>
    obtain rfl := hcomplete.unique (.ofList hturn.length_eq)
    have htimes : (readTimes src tids []).run s₂ = (.ok (Table.ofList (tids.zip ns)), s') :=
      (readTimes_eq_ok_iff src).2 ⟨ns, hturn, rfl⟩
    refine ⟨_, run_bind_eq_ok.2 ⟨true, s₁, hsupported, ?_⟩, rfl⟩
    exact run_bind_eq_ok.2 ⟨tids, s₂, htids, run_bind_eq_ok.2 ⟨_, s', htimes, rfl⟩⟩
  | unsupported hsupported => exact ⟨_, run_bind_eq_ok.2 ⟨false, s', hsupported, rfl⟩, rfl⟩
  | support_untold hsupported => exact ⟨_, run_bind_eq_error.2 (.inl hsupported), rfl⟩
  | ids_untold hsupported htids =>
    exact ⟨_, run_bind_eq_error.2 (.inr ⟨true, _, hsupported, run_bind_eq_error.2 (.inl htids)⟩), rfl⟩
  | @time_untold earlier later _ tid e _ _ s₃ _ hsupported htids hturn htime =>
    have htimes : (readTimes src (earlier ++ tid :: later) []).run _ = _ :=
      (readTimes_eq_error_iff src).2 ⟨earlier, tid, later, _, s₃, rfl, hturn, htime⟩
    refine ⟨.error e, run_bind_eq_error.2 (.inr ⟨true, _, hsupported, ?_⟩), rfl⟩
    exact run_bind_eq_error.2 (.inr ⟨_, _, htids, run_bind_eq_error.2 (.inl htimes)⟩)

variable {src} in
/-- Collected times are a table. -/
theorem Collects.pairwise_keys {s s' : σ} {current : Option ThreadTimes} {times : ThreadTimes}
    (h : Collects src s current s') (htimes : current = some times) :
    (Table.keys times).Pairwise (· < ·) := by
  cases h with
  | all _ _ _ hcomplete => exact Option.some_inj.1 htimes ▸ hcomplete.pairwise_keys
  | unsupported | support_untold | ids_untold | time_untold => cases htimes

/-- The collecting ends in one of these ways. -/
theorem exists_collects (s : σ) : ∃ current s', Collects src s current s' := by
  rcases hsupported : src.threadCpuTimeSupported.run s with ⟨e | supported, s₁⟩
  · exact ⟨none, s₁, .support_untold hsupported⟩
  cases supported with
  | false => exact ⟨none, s₁, .unsupported hsupported⟩
  | true =>
    rcases htids : src.threadIds.run s₁ with ⟨e | tids, s₂⟩
    · exact ⟨none, s₂, .ids_untold hsupported htids⟩
    rcases htimes : (readTimes src tids []).run s₂ with ⟨e | times, s₃⟩
    · obtain ⟨earlier, tid, later, ns, s₄, rfl, hturn, htime⟩ := (readTimes_eq_error_iff src).1 htimes
      exact ⟨none, s₃, .time_untold hsupported htids hturn htime⟩
    · obtain ⟨ns, hturn, rfl⟩ := (readTimes_eq_ok_iff src).1 htimes
      exact ⟨_, s₃, .all hsupported htids hturn (.ofList hturn.length_eq)⟩

/-! ### The rows of the ranked threads -/

/-- A thread that is ranked has its row. -/
theorem shows_rowOf {previous current : ThreadTimes} {limit : Option Nat} {uptimeMs processNs : Int}
    (hcurrent : (Table.keys current).Pairwise (· < ·)) {entry : Int × Int}
    (h : entry ∈ (rankThreads previous current limit).entries) (info : ThreadInfo) :
    (rowOf current uptimeMs processNs entry info).Shows previous current uptimeMs processNs entry
      info := by
  obtain ⟨tid, delta⟩ := entry
  obtain ⟨before, now, hbefore, hmem, rfl⟩ := mem_entries_rankThreads h
  have hnow : Table.get? tid current = some now :=
    (Table.get?_eq_some_iff_of_pairwise hcurrent).2 hmem
  refine ⟨rfl, rfl, rfl, fun owner => ?_, before, now, hbefore, hnow, rfl, rfl, ?_⟩
  · simp only [rowOf, Option.ite_none_right_eq_some, Option.some.injEq]
    constructor
    · rintro ⟨howner, rfl⟩
      exact ⟨rfl, howner⟩
    · rintro ⟨rfl, howner⟩
      exact ⟨howner, rfl⟩
  · simp only [rowOf, hnow, Option.getD_some]

/-- The rows of the ranked threads that are there make the report. -/
theorem reports_reportOf {previous current : ThreadTimes} (limit : Option Nat)
    (uptimeMs processNs : Int) (hcurrent : (Table.keys current).Pairwise (· < ·))
    (infos : List (Option ThreadInfo)) :
    Reports previous current uptimeMs processNs (rankThreads previous current limit) infos
      (reportOf (rankThreads previous current limit)
        ((present (rankThreads previous current limit).entries infos).map fun x =>
          rowOf current uptimeMs processNs x.1 x.2)) := by
  have hsub := map_fst_present_sublist (rankThreads previous current limit).entries infos
  have htids : (((present (rankThreads previous current limit).entries infos).map fun x =>
      rowOf current uptimeMs processNs x.1 x.2).map (·.tid)).Sublist
        ((rankThreads previous current limit).entries.map Prod.fst) := by
    have hmap := hsub.map Prod.fst
    rw [List.map_map] at hmap ⊢
    exact hmap
  refine ⟨?_, htids, (ranks_rankThreads previous limit hcurrent).nodup.sublist htids, rfl, rfl⟩
  refine List.forall₂_map_right_iff.2 (List.forall₂_same.2 fun x hx => ?_)
  exact shows_rowOf hcurrent (hsub.subset (List.mem_map_of_mem hx)) x.2

/-! ### Both together -/

/-- **A reading of the threads.** Collecting the times ends in one of the ways that `Collects` names,
and after that the tracker retains the complete times of this reading if they were all told, also when
the reading fails later on; in any other case it retains exactly what it did. With the times collected,
the reading ends well just if the ranked threads are looked up, one after the other, and then it reports
one row for each of them that is there, in the order of the ranking and each under its own number. -/
theorem thread_sampling (limit : Option Nat) (uptimeMs processNs : Int) (tr : ThreadTracker) (s : σ) :
    (∃ current s₁, Collects src s current s₁) ∧
    ∀ current s₁, Collects src s current s₁ → ∀ result tr' s',
      (sample src limit uptimeMs processNs).run (tr, s) = (result, tr', s') →
        tr'.retained = current.getD tr.retained ∧
        (∀ report, result = .ok report → report.cpuTimeSupported → ∃ times infos,
          current = some times ∧
            InTurn src.threadInfo? ((rankThreads tr.retained times limit).entries.map Prod.fst)
              s₁ infos s' ∧
            Reports tr.retained times uptimeMs processNs (rankThreads tr.retained times limit) infos
              report) ∧
        ∀ times infos s₂, current = some times →
          InTurn src.threadInfo? ((rankThreads tr.retained times limit).entries.map Prod.fst)
            s₁ infos s₂ →
          ∃ report, result = .ok report ∧ report.cpuTimeSupported ∧ s' = s₂ := by
  refine ⟨exists_collects src s, fun current s₁ hcollects result tr' s' hrun => ?_⟩
  obtain ⟨collected, hcollected, rfl⟩ := hcollects.run_readAll
  rw [run_sample, hcollected] at hrun
  rcases collected with e | _ | times
  · cases hrun
    exact ⟨rfl, nofun, nofun⟩
  · cases hrun
    refine ⟨rfl, ?_, nofun⟩
    rintro _ ⟨⟩ ⟨⟩
  rcases hrows : (readRows src times uptimeMs processNs
    (rankThreads tr.retained times limit).entries).run s₁ with ⟨rows, s₂⟩
  simp only [hrows] at hrun
  cases hrun
  have hkeys := hcollects.pairwise_keys rfl
  refine ⟨rfl, ?_, ?_⟩
  · intro report hreport _
    cases rows with
    | error e => cases hreport
    | ok rows =>
    cases hreport
    obtain ⟨infos, hturn, rfl⟩ := (readRows_eq_ok_iff src).1 hrows
    exact ⟨times, infos, rfl, hturn, reports_reportOf limit uptimeMs processNs hkeys infos⟩
  · rintro _ infos s₂ ⟨⟩ hturn
    have hok : (readRows src times uptimeMs processNs _).run s₁ = _ :=
      (readRows_eq_ok_iff src).2 ⟨infos, hturn, rfl⟩
    cases hrows.symm.trans hok
    exact ⟨_, rfl, rfl, rfl⟩

end

/-- A peer with two threads, of which the first one waits for the other. It tells one of them twice. -/
def waiting : Script where
  values := [(.threading, [("ThreadCpuTimeSupported", .bool true), ("AllThreadIds", .longs [2, 1, 2])])]
  results := [("getThreadCpuTime:1", .long 5), ("getThreadCpuTime:2", .long 9),
    ("getThreadInfo:1", .thread ⟨1, "main", "BLOCKED", 2⟩)]

/-- Only the first one was known before, so it has the one row. -/
theorem thread_sampling_of_waiting : ∃ report tr' s' times infos,
    (sample Script.source none 1000 100).run (⟨[(1, 3)]⟩, waiting) = (.ok report, tr', s') ∧
      tr'.retained = [(1, 5), (2, 9)] ∧ report.rows.map (·.blockedBy) = [some 2] ∧
      Reports [(1, 3)] times 1000 100 (rankThreads [(1, 3)] times none) infos report := by
  have hreport : ((sample Script.source none 1000 100).run
      (⟨[(1, 3)]⟩, waiting)).1.toOption.map (fun r => (r.cpuTimeSupported, r.rows.map (·.blockedBy))) =
        some (true, [some 2]) := by decide +kernel
  have hretained : ((sample Script.source none 1000 100).run
      (⟨[(1, 3)]⟩, waiting)).2.1.retained = [(1, 5), (2, 9)] := by decide +kernel
  rcases hrun : (sample Script.source none 1000 100).run (⟨[(1, 3)]⟩, waiting) with ⟨result, tr', s'⟩
  rw [hrun] at hreport hretained
  cases result with
  | error e => cases hreport
  | ok report =>
    obtain ⟨hsupported, hrows⟩ := Prod.mk.inj (Option.some.inj hreport)
    obtain ⟨⟨current, s₁, hcollects⟩, hends⟩ := thread_sampling Script.source none 1000 100
      ⟨[(1, 3)]⟩ waiting
    obtain ⟨-, hreports, -⟩ := hends current s₁ hcollects (.ok report) tr' s' hrun
    obtain ⟨times, infos, -, -, hreports⟩ := hreports report rfl hsupported
    exact ⟨report, tr', s', times, infos, rfl, hretained, hrows, hreports⟩

end ThreadTracker

end VmMonitor
