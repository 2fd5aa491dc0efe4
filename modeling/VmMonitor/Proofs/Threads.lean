import VmMonitor.Proofs.Peer.Exchange
import VmMonitor.Proofs.Table
import VmMonitor.Threads

/-!
# What a reading of all threads gives

A reading first collects the CPU times of all threads. Only when it has them all does it take them
over, and it looks up the ranked threads after that: a thread that cannot be looked up fails the
reading, but the times are taken over already.

## What is proved

* `ThreadTracker.run_sample` — a reading is the complete reading of the times, followed by the rows.
* `mem_entries_rankThreads` — what is ranked is the difference of two times of one thread.
* `ThreadTracker.readRows_eq_ok_iff` — the rows are those of the ranked threads that are there.
* `ThreadTracker.succeeds_sample` — a reading ends well just when all that it asks for is told.
-/

namespace VmMonitor

open Exchange

/-- Ranked are threads that both tables know, by the difference of their times. -/
theorem mem_entries_rankThreads {previous current : ThreadTimes} {limit : Option Nat} {tid delta : Int}
    (h : (tid, delta) ∈ (rankThreads previous current limit).entries) :
    ∃ before now, Table.get? tid previous = some before ∧ (tid, now) ∈ current ∧
      delta = Counter.sub now before := by
  have hranked : (tid, delta) ∈ (current.filterMap fun x =>
      (Table.get? x.1 previous).map fun before => (x.1, Counter.sub x.2 before)) := by
    cases limit with
    | none => exact List.mem_mergeSort.1 h
    | some n => exact List.mem_mergeSort.1 (List.mem_of_mem_take h)
  obtain ⟨⟨tid', now⟩, hnow, heq⟩ := List.mem_filterMap.1 hranked
  obtain ⟨before, hbefore, hentry⟩ := Option.map_eq_some_iff.1 heq
  obtain ⟨rfl, rfl⟩ := Prod.mk.inj hentry
  exact ⟨before, now, hbefore, hnow, rfl⟩

namespace ThreadTracker

variable {σ : Type} (src : Source σ)

/-- The CPU times of all threads; none if they are not supported. -/
def readAll : Exchange σ (Option ThreadTimes) := do
  if ← src.threadCpuTimeSupported then
    let tids ← src.threadIds
    let times ← readTimes src tids []
    return some times
  else return none

/-- The report of ranked threads from their rows. -/
def reportOf (ranking : ThreadRanking) (rows : List ThreadRow) : ThreadReport :=
  { rows, truncated := ranking.truncated, cpuTimeSupported := true }

/-- A reading is the complete reading of the times, which are taken over if they were read, followed
by the rows. -/
theorem run_sample (limit : Option Nat) (uptimeMs processNs : Int) (tr : ThreadTracker) (s : σ) :
    (sample src limit uptimeMs processNs).run (tr, s) =
      match (readAll src).run s with
      | (.ok (some times), s) =>
        let ranking := rankThreads tr.retained times limit
        let (rows, s) := (readRows src times uptimeMs processNs ranking.entries).run s
        (rows.map (reportOf ranking), ⟨times⟩, s)
      | (.ok none, s) => (.ok {}, tr, s)
      | (.error e, s) => (.error e, tr, s) := by
  simp only [sample, readAll, run_bind, run_beside]
  rcases src.threadCpuTimeSupported.run s with ⟨_ | _ | _, s₁⟩
  · rfl
  · rfl
  simp only [if_true, run_bind, run_beside]
  rcases src.threadIds.run s₁ with ⟨_ | tids, s₂⟩
  · rfl
  simp only [run_beside]
  rcases (readTimes src tids []).run s₂ with ⟨_ | times, s₃⟩
  · rfl
  have hget (x : ThreadTracker × σ) : (get : Exchange (ThreadTracker × σ) _).run x = (.ok x, x) := rfl
  have hset (x y : ThreadTracker × σ) :
      (set y : Exchange (ThreadTracker × σ) PUnit).run x = (.ok ⟨⟩, y) := rfl
  have htimes : (pure (some times) : Exchange σ (Option ThreadTimes)).run s₃ =
      (.ok (some times), s₃) := rfl
  simp only [hget, hset, htimes, rank, run_beside]
  rcases (readRows src times uptimeMs processNs (rankThreads tr.retained times limit).entries).run s₃
    with ⟨_ | rows, s₄⟩ <;> rfl

/-! ### All that is asked for -/

/-- The times of all threads are read just when each of them is, one after the other. -/
theorem readTimes_eq_ok_iff {tids : List Int} {times times' : ThreadTimes} {s s' : σ} :
    (readTimes src tids times).run s = (.ok times', s') ↔
      ∃ ns, InTurn src.threadCpuTime tids s ns s' ∧
        times' = (tids.zip ns).foldl (fun t e => Table.insert e.1 e.2 t) times := by
  induction tids generalizing times s with
  | nil =>
    constructor
    · rintro ⟨⟩
      exact ⟨[], .nil _, rfl⟩
    · rintro ⟨ns, hturn, rfl⟩
      cases hturn
      rfl
  | cons tid tids ih =>
    constructor
    · intro h
      obtain ⟨n, s₁, hn, hrest⟩ := run_bind_eq_ok.1 h
      obtain ⟨ns, hturn, rfl⟩ := ih.1 hrest
      exact ⟨n :: ns, .cons hn hturn, rfl⟩
    · rintro ⟨ns, hturn, rfl⟩
      cases hturn with
      | cons hn hturn => exact run_bind_eq_ok.2 ⟨_, _, hn, ih.2 ⟨_, hturn, rfl⟩⟩

/-- The row of a ranked thread. -/
def rowOf (totals : ThreadTimes) (uptimeMs processNs : Int) (entry : Int × Int) (info : ThreadInfo) :
    ThreadRow where
  tid := entry.1
  name := info.name
  state := info.state
  cpuPercent := cyclePercent entry.2 uptimeMs
  totalCpuPercent := lifetimePercent ((Table.get? entry.1 totals).getD 0) processNs
  blockedBy := if 0 ≤ info.lockOwner then some info.lockOwner else none

/-- The ranked threads that are there, as they were described. -/
def present (entries : List (Int × Int)) (infos : List (Option ThreadInfo)) :
    List ((Int × Int) × ThreadInfo) :=
  (entries.zip infos).filterMap fun (entry, info?) => info?.map fun info => (entry, info)

theorem present_cons_none (entry : Int × Int) (entries : List (Int × Int))
    (infos : List (Option ThreadInfo)) :
    present (entry :: entries) (none :: infos) = present entries infos := rfl

theorem present_cons_some (entry : Int × Int) (entries : List (Int × Int)) (info : ThreadInfo)
    (infos : List (Option ThreadInfo)) :
    present (entry :: entries) (some info :: infos) = (entry, info) :: present entries infos := rfl

/-- Whatever is there was ranked, and in that order. -/
theorem map_fst_present_sublist (entries : List (Int × Int)) (infos : List (Option ThreadInfo)) :
    ((present entries infos).map Prod.fst).Sublist entries := by
  induction entries generalizing infos with
  | nil => exact .slnil
  | cons entry entries ih =>
    rcases infos with _ | ⟨_ | info, infos⟩
    · exact List.nil_sublist _
    · rw [present_cons_none]
      exact (ih infos).cons _
    · rw [present_cons_some]
      exact (ih infos).cons_cons _

/-- The rows are read just when each of the threads is looked up, one after the other, and those that
are there have a row each. -/
theorem readRows_eq_ok_iff {totals : ThreadTimes} {uptimeMs processNs : Int}
    {entries : List (Int × Int)} {rows : List ThreadRow} {s s' : σ} :
    (readRows src totals uptimeMs processNs entries).run s = (.ok rows, s') ↔
      ∃ infos, InTurn src.threadInfo? (entries.map Prod.fst) s infos s' ∧
        rows = (present entries infos).map fun x => rowOf totals uptimeMs processNs x.1 x.2 := by
  induction entries generalizing rows s with
  | nil =>
    constructor
    · rintro ⟨⟩
      exact ⟨[], .nil _, rfl⟩
    · rintro ⟨infos, hturn, rfl⟩
      cases hturn
      rfl
  | cons entry entries ih =>
    constructor
    · intro h
      obtain ⟨info, s₁, hinfo, hrest⟩ := run_bind_eq_ok.1 h
      obtain ⟨rows', s₂, hrows, hlast⟩ := run_bind_eq_ok.1 hrest
      cases info with
      | none =>
        cases hlast
        obtain ⟨infos, hturn, rfl⟩ := ih.1 hrows
        exact ⟨none :: infos, .cons hinfo hturn, rfl⟩
      | some info =>
        cases hlast
        obtain ⟨infos, hturn, rfl⟩ := ih.1 hrows
        exact ⟨some info :: infos, .cons hinfo hturn, rfl⟩
    · rintro ⟨infos, hturn, rfl⟩
      cases hturn with
      | @cons _ _ _ s₁ _ info infos hinfo hturn =>
        have hrows := ih.2 ⟨infos, hturn, rfl⟩
        refine run_bind_eq_ok.2 ⟨info, s₁, hinfo, run_bind_eq_ok.2 ⟨_, s', hrows, ?_⟩⟩
        cases info <;> rfl

/-- The rows are read just when each of the threads is, one after the other. -/
theorem succeeds_readRows {totals : ThreadTimes} {uptimeMs processNs : Int}
    {entries : List (Int × Int)} {s : σ} :
    (readRows src totals uptimeMs processNs entries).Succeeds s ↔
      ∃ infos s', InTurn src.threadInfo? (entries.map Prod.fst) s infos s' := by
  constructor
  · rintro ⟨rows, s', h⟩
    obtain ⟨infos, hturn, -⟩ := (readRows_eq_ok_iff src).1 h
    exact ⟨infos, s', hturn⟩
  · rintro ⟨infos, s', hturn⟩
    exact ⟨_, s', (readRows_eq_ok_iff src).2 ⟨infos, hturn, rfl⟩⟩

/-- The share that a row shows is that of a ranked difference. -/
theorem readRows_yields (totals : ThreadTimes) (uptimeMs processNs : Int) (entries : List (Int × Int)) :
    Yields (fun _ => True) (readRows src totals uptimeMs processNs entries) fun rows _ =>
      ∀ row ∈ rows, ∃ delta, (row.tid, delta) ∈ entries ∧
        row.cpuPercent = cyclePercent delta uptimeMs := by
  intro s _ rows s' h row hrow
  obtain ⟨infos, -, rfl⟩ := (readRows_eq_ok_iff src).1 h
  obtain ⟨x, hx, rfl⟩ := List.mem_map.1 hrow
  exact ⟨x.1.2, (map_fst_present_sublist entries infos).subset (List.mem_map_of_mem hx), rfl⟩

/-- All that a reading of the threads asks for is told: whether CPU times are supported; and if they
are, the ids of all threads, then the time of each, then the state of each that is ranked. -/
inductive Told (limit : Option Nat) (tr : ThreadTracker) (s : σ) : Prop
  | unsupported {s₁ : σ} : src.threadCpuTimeSupported.run s = (.ok false, s₁) → Told limit tr s
  | supported {s₁ s₂ s₃ s₄ : σ} {tids times : List Int} {infos : List (Option ThreadInfo)} :
      src.threadCpuTimeSupported.run s = (.ok true, s₁) →
      src.threadIds.run s₁ = (.ok tids, s₂) → InTurn src.threadCpuTime tids s₂ times s₃ →
      InTurn src.threadInfo?
        ((rankThreads tr.retained (Table.ofList (tids.zip times)) limit).entries.map Prod.fst)
        s₃ infos s₄ → Told limit tr s

/-- Once all times are read, a reading ends well just when the rows of the ranked threads are read. -/
theorem succeeds_rank_rows {current : ThreadTimes} {limit : Option Nat} {uptimeMs processNs : Int}
    {tr : ThreadTracker} {s : σ} :
    (do
      let (tracker, s) ← get
      let (ranking, tracker) := tracker.rank current limit
      set (tracker, s)
      let rows ← (readRows src current uptimeMs processNs ranking.entries).beside ThreadTracker
      return { rows, truncated := ranking.truncated, cpuTimeSupported := true } :
        Exchange (ThreadTracker × σ) ThreadReport).Succeeds (tr, s) ↔
    (readRows src current uptimeMs processNs
      (rankThreads tr.retained current limit).entries).Succeeds s := by
  have hrank (x : Exchange σ (List ThreadRow)) : (x.beside ThreadTracker >>= fun rows =>
      pure (reportOf (rankThreads tr.retained current limit) rows)).Succeeds (⟨current⟩, s) ↔
        x.Succeeds s := succeeds_bind_pure.trans succeeds_beside
  exact hrank _

/-- A reading ends well just when all that it asks for is told. -/
theorem succeeds_sample {limit : Option Nat} {uptimeMs processNs : Int} {tr : ThreadTracker} {s : σ} :
    (sample src limit uptimeMs processNs).Succeeds (tr, s) ↔ Told src limit tr s := by
  constructor
  · intro h
    obtain ⟨supported, s₁, hsupported, h⟩ := succeeds_beside_bind.1 h
    cases supported with
    | false => exact .unsupported hsupported
    | true =>
      obtain ⟨tids, s₂, htids, h⟩ := succeeds_beside_bind.1 h
      obtain ⟨times, s₃, htimes, h⟩ := succeeds_beside_bind.1 h
      obtain ⟨ns, hturn, rfl⟩ := (readTimes_eq_ok_iff src).1 htimes
      obtain ⟨infos, s₄, hinfos⟩ := (succeeds_readRows src).1 ((succeeds_rank_rows src).1 h)
      exact .supported hsupported htids hturn hinfos
  · intro h
    cases h with
    | unsupported hsupported => exact succeeds_beside_bind.2 ⟨false, _, hsupported, {}, _, rfl⟩
    | supported hsupported htids hturn hinfos =>
      refine succeeds_beside_bind.2 ⟨true, _, hsupported, ?_⟩
      refine succeeds_beside_bind.2 ⟨_, _, htids, ?_⟩
      refine succeeds_beside_bind.2 ⟨_, _, (readTimes_eq_ok_iff src).2 ⟨_, hturn, rfl⟩, ?_⟩
      exact (succeeds_rank_rows src).2 ((succeeds_readRows src).2 ⟨_, _, hinfos⟩)

end ThreadTracker

end VmMonitor
