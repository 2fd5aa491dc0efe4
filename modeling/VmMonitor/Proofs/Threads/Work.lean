import VmMonitor.Peer.Script
import VmMonitor.Proofs.Number.Counter
import VmMonitor.Proofs.Threads.Sampling

/-!
# The work of a thread between two readings

A row is about the difference of two answers for one thread: that of the last complete reading before,
and that of this one. If both are CPU times that were measured, and those of a thread never fall, the
difference is work that was done between the two. But a peer has an answer that is no time, for a
thread that is gone or is not measured, and this answer is retained and compared like any other. A
thread that is measured in one of two readings only is shown with a difference that means nothing: it
is negative where the thread is lost, and more than all of its work where it is found again.

## What is proved

* `ThreadTracker.retained_after` — a tracker retains the last complete reading.
* `ThreadTracker.exists_compared` — the two answers that a row is about.
* `ThreadTracker.thread_work` — **over any run**, what the difference is in each of the four cases.
* `ThreadTracker.unmeasured_counted` — a run in which a thread is measured, not measured and measured
  again.
-/

namespace VmMonitor

namespace ThreadTracker

/-- The answer for a thread that is gone or not measured. -/
def unmeasured : Int := -1

/-- One call for a reading of all threads: the state in which it finds the peer, whatever has happened
to that since the call before, and what it is told. -/
structure Sampling (σ : Type) where
  peer : σ
  limit : Option Nat := none
  uptimeMs : Int
  processNs : Int

section

variable {σ : Type} (src : Source σ)

namespace Sampling

/-- The report of a call and the tracker that it leaves. -/
def run (c : Sampling σ) (tr : ThreadTracker) : Except ConnectionError ThreadReport × ThreadTracker :=
  let (report, tr, _) := (sample src c.limit c.uptimeMs c.processNs).run (tr, c.peer)
  (report, tr)

/-- The call collects these times of all threads. -/
def Collected (c : Sampling σ) (times : ThreadTimes) : Prop := ∃ s, Collects src c.peer (some times) s

/-- In a complete reading, the peer answers `n` for the thread. -/
def Tells (c : Sampling σ) (tid n : Int) : Prop :=
  ∃ times, c.Collected src times ∧ Table.get? tid times = some n

/-- The peer answers with a CPU time. -/
def Measures (c : Sampling σ) (tid n : Int) : Prop := c.Tells src tid n ∧ n ≠ unmeasured

/-- The row is that of a thread which is ranked by this difference. -/
def Spends (c : Sampling σ) (tr : ThreadTracker) (row : ThreadRow) (delta : Int) : Prop :=
  ∃ times, c.Collected src times ∧
    (row.tid, delta) ∈ (rankThreads tr.retained times c.limit).entries ∧
    row.cpuPercent = cyclePercent delta c.uptimeMs

end Sampling

/-- The tracker that a run of calls leaves. -/
def after (calls : List (Sampling σ)) (tr : ThreadTracker) : ThreadTracker :=
  calls.foldl (fun tr c => (c.run src tr).2) tr

/-- The CPU times that are measured for a thread never fall. -/
def NeverFall (calls : List (Sampling σ)) : Prop :=
  calls.Pairwise fun c c' => ∀ tid n n', c.Measures src tid n → c'.Measures src tid n' → n ≤ n'

/-! ### What is retained -/

/-- The times that a call collects, if it collects all of them. -/
def times? (c : Sampling σ) : Option ThreadTimes := ((readAll src).run c.peer).1.toOption.join

theorem times?_eq_some_iff {c : Sampling σ} {times : ThreadTimes} :
    times? src c = some times ↔ c.Collected src times := by
  constructor
  · intro h
    obtain ⟨current, s, hcollects⟩ := exists_collects src c.peer
    obtain ⟨result, hrun, rfl⟩ := hcollects.run_readAll
    rw [times?, hrun] at h
    exact ⟨s, h ▸ hcollects⟩
  · rintro ⟨s, hcollects⟩
    obtain ⟨result, hrun, hresult⟩ := hcollects.run_readAll
    rw [times?, hrun, hresult]

theorem Sampling.Collected.unique {c : Sampling σ} {times times' : ThreadTimes}
    (h : c.Collected src times) (h' : c.Collected src times') : times = times' := by
  rw [← times?_eq_some_iff] at h h'
  exact Option.some.inj (h.symm.trans h')

theorem Sampling.Tells.unique {c : Sampling σ} {tid n n' : Int} (h : c.Tells src tid n)
    (h' : c.Tells src tid n') : n = n' := by
  obtain ⟨times, hcollected, hn⟩ := h
  obtain ⟨times', hcollected', hn'⟩ := h'
  obtain rfl := hcollected.unique src hcollected'
  exact Option.some.inj (hn.symm.trans hn')

/-- **One call** leaves the times that it has collected, if it has them all. -/
theorem retained_run (c : Sampling σ) (tr : ThreadTracker) :
    (c.run src tr).2.retained = (times? src c).getD tr.retained := by
  simp only [Sampling.run, times?, run_sample]
  rcases (readAll src).run c.peer with ⟨e | _ | times, s⟩ <;> rfl

/-- **Any run** leaves the times of its last complete reading. -/
theorem retained_after (calls : List (Sampling σ)) (tr : ThreadTracker) :
    (after src calls tr).retained = (calls.reverse.findSome? (times? src)).getD tr.retained := by
  induction calls generalizing tr with
  | nil => rfl
  | cons c calls ih =>
    change (after src calls (c.run src tr).2).retained = _
    rw [ih, retained_run, List.reverse_cons, List.findSome?_append]
    cases calls.reverse.findSome? (times? src) with
    | some times => rfl
    | none => cases h : times? src c <;> simp [h]

/-! ### What a row is about -/

/-- The two answers that a row is about: that of the last complete reading before the call, and that of
the call. -/
structure Compared (earlier : List (Sampling σ)) (c : Sampling σ) (row : ThreadRow) (before now : Int) :
    Prop where
  told_before : ∃ front last between, earlier = front ++ last :: between ∧
    last.Tells src row.tid before ∧ ∀ c' ∈ between, ∀ times, ¬c'.Collected src times
  told_now : c.Tells src row.tid now
  spends : c.Spends src (after src earlier {}) row (Counter.sub now before)

/-- The rows of a report are those of ranked threads. -/
theorem exists_of_mem_rows {c : Sampling σ} {tr : ThreadTracker} {report : ThreadReport}
    {row : ThreadRow} (hreport : (c.run src tr).1 = .ok report) (hrow : row ∈ report.rows) :
    ∃ times delta, c.Collected src times ∧
      (row.tid, delta) ∈ (rankThreads tr.retained times c.limit).entries ∧
      row.cpuPercent = cyclePercent delta c.uptimeMs := by
  simp only [Sampling.run, run_sample] at hreport
  rcases hread : (readAll src).run c.peer with ⟨e | _ | times, s⟩
  · rw [hread] at hreport
    cases hreport
  · rw [hread] at hreport
    cases hreport
    cases hrow
  have htimes : times? src c = some times := by
    rw [times?, hread]
    rfl
  rcases hrows : (readRows src times c.uptimeMs c.processNs
    (rankThreads tr.retained times c.limit).entries).run s with ⟨e | rows, s'⟩
  · simp only [hread, hrows] at hreport
    cases hreport
  · simp only [hread, hrows] at hreport
    cases hreport
    obtain ⟨delta, hranked, hpercent⟩ := readRows_yields src _ _ _ _ s trivial rows s' hrows row hrow
    exact ⟨times, delta, (times?_eq_some_iff src).1 htimes, hranked, hpercent⟩

/-- Every row is about two answers. -/
theorem exists_compared {earlier : List (Sampling σ)} {c : Sampling σ} {report : ThreadReport}
    {row : ThreadRow} (hreport : (c.run src (after src earlier {})).1 = .ok report)
    (hrow : row ∈ report.rows) : ∃ before now, Compared src earlier c row before now := by
  obtain ⟨times, delta, hcollected, hranked, hpercent⟩ := exists_of_mem_rows src hreport hrow
  obtain ⟨before, now, hbefore, hnow, rfl⟩ := mem_entries_rankThreads hranked
  refine ⟨before, now, ?_, ⟨times, hcollected, ?_⟩, times, hcollected, hranked, hpercent⟩
  · rw [retained_after] at hbefore
    cases hlast : earlier.reverse.findSome? (times? src) with
    | none =>
      rw [hlast] at hbefore
      cases hbefore
    | some previous =>
      rw [hlast] at hbefore
      obtain ⟨after, last, before', hsplit, hlast, hnone⟩ := List.findSome?_eq_some_iff.1 hlast
      refine ⟨before'.reverse, last, after.reverse, ?_, ⟨previous, ?_, hbefore⟩, ?_⟩
      · rw [← List.reverse_reverse earlier, hsplit]
        simp
      · exact (times?_eq_some_iff src).1 hlast
      · intro c' hc' times' hcollected'
        have hfound := (times?_eq_some_iff src).2 hcollected'
        rw [hnone c' (List.mem_reverse.1 hc')] at hfound
        cases hfound
  · obtain ⟨s, hcollects⟩ := hcollected
    exact (Table.get?_eq_some_iff_of_pairwise (hcollects.pairwise_keys rfl)).2 hnow

/-! ### What the difference says -/

/-- What is known of the difference in a row, by what the two answers stand for. -/
structure Work (earlier : List (Sampling σ)) (c : Sampling σ) (tid before now delta : Int) : Prop where
  /-- Between two times that were measured it is what the thread has done. -/
  measured : before ≠ unmeasured → now ≠ unmeasured → delta = now - before ∧ 0 ≤ delta
  /-- A thread that was not measured at all has done nothing. -/
  never_measured : before = unmeasured → now = unmeasured → delta = 0
  /-- A thread that is no longer measured has done less than nothing. -/
  lost : now = unmeasured → 0 ≤ before → delta < 0
  /-- A thread that is measured again has done more than between any two times that were measured. -/
  found : before = unmeasured → now ≠ unmeasured → ∀ c₁ ∈ earlier ++ [c], ∀ c₂ ∈ earlier ++ [c],
    ∀ m n, c₁.Measures src tid m → c₂.Measures src tid n → 0 ≤ m → n - m < delta

/-- What is measured in a run whose times never fall is at most what its last call measures. -/
theorem NeverFall.le_last {earlier : List (Sampling σ)} {c : Sampling σ}
    (h : NeverFall src (earlier ++ [c])) {c' : Sampling σ} (hc' : c' ∈ earlier ++ [c]) {tid n now : Int}
    (hn : c'.Measures src tid n) (hnow : c.Measures src tid now) : n ≤ now := by
  rcases List.mem_append.1 hc' with hearlier | hlast
  · exact (List.pairwise_append.1 h).2.2 c' hearlier c (.head _) tid n now hn hnow
  · obtain rfl := List.mem_singleton.1 hlast
    exact Int.le_of_eq (hn.1.unique src hnow.1)

/-- **The work of a thread.** Take any peer and any run of calls, in which the CPU times that are measured
for a thread never fall, and any row of any report. It is about the difference of two answers for its
thread, that of the last complete reading before and that of this one, as 64 bits keep it. Let these hold
the difference. If both answers were measured, it is the growth between two measured times, and not
negative. If neither was, it is zero. If only the first one was, it is negative, and if only the second
one was, it is more than the growth between any two times that were measured, as long as these are not
negative themselves. -/
theorem thread_work {calls : List (Sampling σ)} (hrise : NeverFall src calls)
    {earlier later : List (Sampling σ)} {c : Sampling σ} (hcalls : calls = earlier ++ c :: later)
    {report : ThreadReport} (hreport : (c.run src (after src earlier {})).1 = .ok report)
    {row : ThreadRow} (hrow : row ∈ report.rows) :
    ∃ before now, Compared src earlier c row before now ∧ (isInt64 (now - before) →
      Work src earlier c row.tid before now (Counter.sub now before)) := by
  obtain ⟨before, now, hcompared⟩ := exists_compared src hreport hrow
  have hrise : NeverFall src (earlier ++ [c]) := by
    refine hrise.sublist ?_
    rw [hcalls]
    exact (List.Sublist.refl _).append (List.singleton_sublist.2 (.head _))
  refine ⟨before, now, hcompared, fun hfits => ?_⟩
  rw [Counter.sub_of_isInt64 hfits]
  refine ⟨?_, ?_, ?_, ?_⟩
  · intro hbefore hnow
    obtain ⟨front, last, between, hsplit, htold, -⟩ := hcompared.told_before
    have hlast : last ∈ earlier ++ [c] := by simp [hsplit]
    have hle := hrise.le_last src hlast ⟨htold, hbefore⟩ ⟨hcompared.told_now, hnow⟩
    exact ⟨rfl, Int.sub_nonneg.2 hle⟩
  · rintro rfl rfl
    exact Int.sub_self _
  · rintro rfl hbefore
    simp only [unmeasured]
    omega
  · rintro rfl hnow c₁ - c₂ hc₂ m n - hn hm
    have hle := hrise.le_last src hc₂ hn ⟨hcompared.told_now, hnow⟩
    simp only [unmeasured]
    omega

end

/-! ### A thread that is lost and found again -/

/-- A peer with one thread, for whose CPU time it answers `n`. -/
def telling (n : Int) : Script where
  values := [(.threading, [("ThreadCpuTimeSupported", .bool true), ("AllThreadIds", .longs [1])])]
  results := [("getThreadCpuTime:1", .long n), ("getThreadInfo:1", .thread ⟨1, "main", "RUNNABLE", -1⟩)]

/-- A call that finds this peer. -/
def hearing (n : Int) : Sampling Script := { peer := telling n, uptimeMs := 1000, processNs := 1000 }

theorem tells_hearing_iff {tid n a : Int} :
    (hearing n).Tells Script.source tid a ↔ tid = 1 ∧ a = n := by
  have htimes : times? Script.source (hearing n) = some [(1, n)] := rfl
  have hcollected := (times?_eq_some_iff _).1 htimes
  constructor
  · rintro ⟨times, htold, ha⟩
    obtain rfl := hcollected.unique _ htold
    simpa [Table.get?, eq_comm] using ha
  · rintro ⟨rfl, rfl⟩
    exact ⟨_, hcollected, rfl⟩

/-- The row of the thread in a reading of `n` after one of `m`. -/
def heard (m n : Int) : ThreadRow where
  tid := 1
  name := "main"
  state := "RUNNABLE"
  cpuPercent := cyclePercent (Counter.sub n m) 1000
  totalCpuPercent := lifetimePercent n 1000
  blockedBy := none

theorem rankThreads_one (m n : Int) :
    rankThreads [(1, m)] [(1, n)] none = ⟨[(1, Counter.sub n m)], false⟩ := by
  simp [rankThreads, Table.get?]

/-- After a reading of `m`, a reading of `n` reports the thread with the difference of the two. -/
theorem run_hearing (m n : Int) : (hearing n).run Script.source ⟨[(1, m)]⟩ =
    (.ok { rows := [heard m n], cpuTimeSupported := true }, ⟨[(1, n)]⟩) := by
  obtain ⟨s, hs⟩ : ∃ s, s = ((readAll Script.source).run (telling n)).2 := ⟨_, rfl⟩
  have hread : (readAll Script.source).run (hearing n).peer = (.ok (some [(1, n)]), s) := by
    rw [hs]
    rfl
  have hrows : ((readRows Script.source [(1, n)] 1000 1000 [(1, Counter.sub n m)]).run s).1 =
      .ok [heard m n] := by
    rw [hs]
    rfl
  rcases hrun : (readRows Script.source [(1, n)] 1000 1000 [(1, Counter.sub n m)]).run s with ⟨rows, s'⟩
  obtain rfl : rows = .ok [heard m n] := by rw [← hrows, hrun]
  simp only [Sampling.run, run_sample, hread]
  simp only [hearing, rankThreads_one, hrun]
  rfl

theorem spends_heard (m n : Int) :
    (hearing n).Spends Script.source ⟨[(1, m)]⟩ (heard m n) (Counter.sub n m) := by
  refine ⟨[(1, n)], (times?_eq_some_iff _).1 rfl, ?_, rfl⟩
  simp [hearing, rankThreads_one, heard]

theorem after_hearing (calls : List (Sampling Script)) (m : Int) :
    after Script.source (calls ++ [hearing m]) {} = ⟨[(1, m)]⟩ := by
  have hretained := retained_run Script.source (hearing m) (after Script.source calls {})
  have htimes : times? Script.source (hearing m) = some [(1, m)] := rfl
  rw [htimes, Option.getD_some] at hretained
  rw [after, List.foldl_append]
  exact congrArg ThreadTracker.mk hretained

theorem neverFall_hearing {ns : List Int}
    (h : ns.Pairwise fun n n' => n ≠ unmeasured → n' ≠ unmeasured → n ≤ n') :
    NeverFall Script.source (ns.map hearing) := by
  refine List.pairwise_map.2 (h.imp fun {n n'} hle tid a a' ha ha' => ?_)
  obtain ⟨htold, hmeasured⟩ := ha
  obtain ⟨htold', hmeasured'⟩ := ha'
  rw [tells_hearing_iff] at htold htold'
  rw [htold.2, htold'.2] at *
  exact hle hmeasured hmeasured'

/-- A thread that was measured in both of two readings has done what lies between them. -/
theorem thread_work_of_busy : ∃ row before now, NeverFall Script.source ([100, 150].map hearing) ∧
    ((hearing 150).run Script.source (after Script.source [hearing 100] {})).1 =
      .ok { rows := [row], cpuTimeSupported := true } ∧
    Compared Script.source [hearing 100] (hearing 150) row before now ∧
    before = 100 ∧ now = 150 ∧ 0 ≤ Counter.sub now before := by
  have hrise : NeverFall Script.source ([100, 150].map hearing) := neverFall_hearing (by decide)
  have hreport : ((hearing 150).run Script.source (after Script.source [hearing 100] {})).1 =
      .ok { rows := [heard 100 150], cpuTimeSupported := true } := by
    rw [show after Script.source [hearing 100] {} = ⟨[(1, 100)]⟩ from after_hearing [] 100, run_hearing]
  have hcalls : [100, 150].map hearing = [hearing 100] ++ hearing 150 :: [] := rfl
  obtain ⟨before, now, hcompared, hwork⟩ := thread_work Script.source hrise hcalls hreport (.head _)
  obtain rfl : now = 150 := (tells_hearing_iff.1 hcompared.told_now).2
  obtain ⟨front, last, between, hsplit, htold, -⟩ := hcompared.told_before
  have hlast : last ∈ [hearing 100] := by simp [hsplit]
  obtain rfl := List.mem_singleton.1 hlast
  obtain rfl : before = 100 := (tells_hearing_iff.1 htold).2
  exact ⟨_, _, _, hrise, hreport, hcompared, rfl, rfl,
    ((hwork (by decide)).measured (by decide) (by decide)).2⟩

/-- **A marker that is counted**: a thread is measured as 100 nanoseconds, is then not measured, and is
measured as 100 again. It is shown with a difference of -101 first, and then with one of 101. -/
theorem unmeasured_counted : NeverFall Script.source ([100, -1, 100].map hearing) ∧
    (∀ c ∈ [100, -1, 100].map hearing, ∀ n, c.Measures Script.source 1 n → n = 100) ∧
    (∃ row, ((hearing (-1)).run Script.source (after Script.source [hearing 100] {})).1 =
        .ok { rows := [row], cpuTimeSupported := true } ∧
      (hearing (-1)).Spends Script.source (after Script.source [hearing 100] {}) row (-101)) ∧
    ∃ row, ((hearing 100).run Script.source
        (after Script.source [hearing 100, hearing (-1)] {})).1 =
        .ok { rows := [row], cpuTimeSupported := true } ∧
      (hearing 100).Spends Script.source (after Script.source [hearing 100, hearing (-1)] {}) row 101 := by
  have hlost : after Script.source [hearing 100] {} = ⟨[(1, 100)]⟩ := after_hearing [] 100
  have hfound : after Script.source [hearing 100, hearing (-1)] {} = ⟨[(1, -1)]⟩ :=
    after_hearing [hearing 100] (-1)
  refine ⟨neverFall_hearing (by decide), ?_, ⟨heard 100 (-1), ?_, ?_⟩, heard (-1) 100, ?_, ?_⟩
  · simp only [List.map_cons, List.map_nil, List.mem_cons, List.not_mem_nil, or_false]
    rintro c (rfl | rfl | rfl) n ⟨htold, hmeasured⟩
    · exact (tells_hearing_iff.1 htold).2
    · exact absurd (tells_hearing_iff.1 htold).2 hmeasured
    · exact (tells_hearing_iff.1 htold).2
  · rw [hlost, run_hearing]
  · rw [hlost]
    exact spends_heard 100 (-1)
  · rw [hfound, run_hearing]
  · rw [hfound]
    exact spends_heard (-1) 100

end ThreadTracker

end VmMonitor
