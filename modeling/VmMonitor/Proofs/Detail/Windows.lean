import VmMonitor.Detail
import VmMonitor.Proofs.Instance.Reading
import VmMonitor.Proofs.Threads
import VmMonitor.Scenario.Replay

/-!
# The windows of the detail view

The share that a thread is shown with divides CPU time by elapsed time. The CPU time runs from the
cycle whose thread times are retained; the elapsed time is the difference of uptimes in the metrics,
which a sample replaces only if it is compared with the baseline. Each of the two moves on by a rule
of its own: the retained times with a cycle that reads the times of all threads, and the baseline with
any cycle that has its counters, even if it fails after that.

So the two windows are one from a cycle that has read all thread times to a report, as long as no sample
was taken in between and that of the report is compared. They come apart where threads could not be
read in between, and where a sample is not compared, which is so for every one of an instance that
spends no time in garbage collection.

## What is proved

* `DetailMonitor.cycle_retained`, `DetailMonitor.cycle_baseline` — what a cycle makes of the retained
  times and of the baseline.
* `DetailMonitor.exists_of_mem_rows` — what a row divides by what.
* `DetailMonitor.Watched.span` — **the run**: what is retained and what the baseline is.
* `DetailMonitor.windows` — over any run, the two windows of a report.
* `DetailMonitor.windows_apart` — runs of a busy thread in which they are not one.
-/

namespace VmMonitor

open Exchange

/-- What is read over a connection leaves the session where it is. -/
theorem TrackedVm.read_of_connection {ω α : Type} (t : Transport ω) {vm : TrackedVm}
    {world : World ω} {s : Session} {c : Connection}
    {readings : Source (Cache × ω) → StateM (Cache × ω) α} {a : α} {cache : Cache} {w' : ω}
    (hs : world.registry.session? vm.session = some s) (hon : s.state.isAttached)
    (hc : s.connection = some c)
    (hrun : (readings (Cache.source (t.source c.id))).run (c.cache, world.peers) = (a, cache, w')) :
    vm.read t readings world =
      (some a, ⟨world.registry.put vm.session { s with connection := some { c with cache } }, w'⟩) := by
  simp only [read, World.onSession_of_some hs, if_pos hon, Session.read, hc, hrun]

/-- Whatever is read from an instance is read from one source in one state; or it cannot be read
from. -/
theorem TrackedVm.read_cases {ω : Type} (t : Transport ω) (vm : TrackedVm) (world : World ω) :
    (∀ {α : Type} (readings : Source (Cache × ω) → StateM (Cache × ω) α),
      (vm.read t readings world).1 = none) ∨
    ∃ src x, ∀ {α : Type} (readings : Source (Cache × ω) → StateM (Cache × ω) α),
      (vm.read t readings world).1 = some ((readings src).run x).1 := by
  cases hs : world.registry.session? vm.session with
  | none =>
    refine .inl fun readings => ?_
    rw [read, World.onSession_of_none hs]
  | some s =>
    by_cases hon : s.state.isAttached
    swap
    · refine .inl fun readings => ?_
      rw [read, World.onSession_of_some hs, if_neg hon]
    cases hc : s.connection with
    | none =>
      refine .inl fun readings => ?_
      rw [read, World.onSession_of_some hs, if_pos hon, Session.read, hc]
    | some c =>
      refine .inr ⟨Cache.source (t.source c.id), (c.cache, world.peers), fun readings => ?_⟩
      rcases hrun : (readings (Cache.source (t.source c.id))).run (c.cache, world.peers)
        with ⟨a, cache, w'⟩
      rw [read_of_connection t hs hon hc hrun]

namespace DetailMonitor

/-! ### The readings of a cycle -/

section

variable {σ : Type} (src : Source σ) (m : DetailMonitor)

/-- The counts of threads and the times of all threads, as far as a cycle asks for them before it
looks any thread up. -/
def readTimes : Exchange σ (Int × Int × Option ThreadTimes) := do
  let peak ← src.peakThreadCount
  let started ← src.totalStartedThreads
  if m.withThreads then
    let times ← ThreadTracker.readAll src
    return (peak, started, times)
  else return (peak, started, none)

/-- The times that were read, if all of that was. -/
def timesOf : Except ConnectionError (Int × Int × Option ThreadTimes) → Option ThreadTimes
  | .ok (_, _, times) => times
  | .error _ => none

/-- The readings of a cycle beyond the update are those of the times, which are retained if they were
read, followed by the rows. -/
theorem run_readThreads (tr : ThreadTracker) (s : σ) :
    (m.readThreads src).run (tr, s) =
      match (m.readTimes src).run s with
      | (.ok (peak, started, some times), s) =>
        let ranking := rankThreads tr.retained times m.threadLimit
        let (rows, s) := (ThreadTracker.readRows src times m.vm.metrics.deltaUptimeMs
          m.vm.metrics.processCpuTimeNs ranking.entries).run s
        (rows.map fun rows => (peak, started, ThreadTracker.reportOf ranking rows), ⟨times⟩, s)
      | (.ok (peak, started, none), s) => (.ok (peak, started, {}), tr, s)
      | (.error e, s) => (.error e, tr, s) := by
  simp only [readThreads, readTimes, run_bind, run_beside]
  rcases src.peakThreadCount.run s with ⟨_ | peak, s₁⟩
  · rfl
  simp only [run_beside]
  rcases src.totalStartedThreads.run s₁ with ⟨_ | started, s₂⟩
  · rfl
  cases m.withThreads with
  | false => rfl
  | true =>
    simp only [if_true, run_bind, ThreadTracker.run_sample]
    rcases (ThreadTracker.readAll src).run s₂ with ⟨_ | _ | times, s₃⟩
    · rfl
    · rfl
    have htimes : (pure (peak, started, some times) :
        Exchange σ (Int × Int × Option ThreadTimes)).run s₃ =
          (.ok (peak, started, some times), s₃) := rfl
    simp only [htimes]
    rcases (ThreadTracker.readRows src times m.vm.metrics.deltaUptimeMs m.vm.metrics.processCpuTimeNs
      (rankThreads tr.retained times m.threadLimit).entries).run s₃ with ⟨_ | rows, s₄⟩ <;> rfl

variable {src m} {tr : ThreadTracker} {s : σ}

/-- All thread times are retained once they were read. -/
theorem readThreads_tracker : ((m.readThreads src).run (tr, s)).2.1.retained =
    (timesOf ((m.readTimes src).run s).1).getD tr.retained := by
  rw [run_readThreads]
  rcases (m.readTimes src).run s with ⟨_ | ⟨peak, started, _ | times⟩, s₁⟩ <;> rfl

/-- A row divides a difference of a thread's times by the time of the cycle. -/
theorem readThreads_rows {peak started : Int} {threads : ThreadReport}
    (h : ((m.readThreads src).run (tr, s)).1 = .ok (peak, started, threads)) {row : ThreadRow}
    (hrow : row ∈ threads.rows) :
    ∃ times delta, timesOf ((m.readTimes src).run s).1 = some times ∧
      (row.tid, delta) ∈ (rankThreads tr.retained times m.threadLimit).entries ∧
      row.cpuPercent = cyclePercent delta m.vm.metrics.deltaUptimeMs := by
  rw [run_readThreads] at h
  rcases htimes : (m.readTimes src).run s with ⟨_ | ⟨peak', started', _ | times⟩, s₁⟩
  · rw [htimes] at h
    cases h
  · rw [htimes] at h
    cases h
    cases hrow
  · rcases hrows : (ThreadTracker.readRows src times m.vm.metrics.deltaUptimeMs
      m.vm.metrics.processCpuTimeNs (rankThreads tr.retained times m.threadLimit).entries).run s₁
      with ⟨_ | rows, s₂⟩
    · simp only [htimes, hrows] at h
      cases h
    · simp only [htimes, hrows] at h
      cases h
      obtain ⟨delta, hdelta, hshare⟩ :=
        ThreadTracker.readRows_yields src _ _ _ _ s₁ trivial rows s₂ hrows row hrow
      exact ⟨times, delta, rfl, hdelta, hshare⟩

end

/-! ### One cycle -/

variable {ω : Type} (t : Transport ω)

/-- The monitor after the update of a cycle, with the row of the instance published. -/
def updated (m : DetailMonitor) (w : ω) : DetailMonitor × World ω :=
  let (_, vm, world) := m.vm.update t ⟨m.registry, w⟩
  let m := { m with vm, registry := world.registry }
  ({ m with published := [m.row] }, world)

section

variable (m : DetailMonitor) (w : ω) {σ : Type} (src : Source σ)

theorem updated_tracker : (m.updated t w).1.tracker = m.tracker := rfl

theorem updated_readTimes : (m.updated t w).1.readTimes src = m.readTimes src := rfl

/-- Of an update, the further readings see what it did to the instance. -/
theorem updated_readThreads : (m.updated t w).1.readThreads src =
    { m with vm := (m.updated t w).1.vm }.readThreads src := rfl

variable {m w}

/-- An instance that is attached and well after the update has been read completely by it. -/
theorem read_of_updated
    (h : (m.updated t w).1.vm.state (m.updated t w).1.registry = .attached) :
    Gauges.Read m.vm.metrics (m.updated t w).1.vm.metrics :=
  TrackedVm.read_of_update t h

end

/-- The further readings of a cycle, with what they make of the retained times. -/
def readings (m : DetailMonitor) (src : Source (Cache × ω)) :
    StateM (Cache × ω) (Except ConnectionError (Int × Int × ThreadReport) × ThreadTracker) := fun x =>
  let (result, (tracker, x)) := (m.readThreads src).run (m.tracker, x)
  ((result, tracker), x)

/-- The thread times that a cycle reads, if it reads them all. -/
def timesRead (m : DetailMonitor) (w : ω) : Option ThreadTimes :=
  let (m, world) := m.updated t w
  if m.vm.state m.registry = .attached then
    (m.vm.read t (fun src => (m.readTimes src).run) world).1.bind timesOf
  else none

/-- The sample that a cycle takes in, if its update comes to have all of the counters. -/
def sampleTaken (m : DetailMonitor) (w : ω) : Option RawSample := m.vm.sampleTaken t ⟨m.registry, w⟩

/-- What is left of a cycle when the row is published: the further readings, if the instance is
attached and well. -/
def conclude (m : DetailMonitor) (world : World ω) : DetailCycle × DetailMonitor × ω :=
  match m.vm.state m.registry with
  | .attached =>
    match m.vm.read t m.readings world with
    | (some (.ok (peak, started, threads), tracker), world) =>
      let m := { m with tracker, registry := world.registry }
      (.report (m.report peak started threads), m, world.peers)
    | (some (.error _, tracker), world) =>
      (.fetchFailed, { m with tracker, registry := world.registry }, world.peers)
    | (none, world) => (.notAttached, { m with registry := world.registry }, world.peers)
  | .attachedUpdateError => (.fetchFailed, m, world.peers)
  | _ => (.notAttached, m, world.peers)

/-- A cycle is an update and the rest. -/
theorem cycle_eq (m : DetailMonitor) (w : ω) :
    m.cycle t w = (m.updated t w).1.conclude t (m.updated t w).2 := rfl

/-- A cycle from `m` to `m'` that ends in `result` has read the threads from a source in a state `x`. -/
structure ReadsFrom (m : DetailMonitor) (w : ω) (src : Source (Cache × ω)) (x : Cache × ω)
    (result : DetailCycle) (m' : DetailMonitor) : Prop where
  read : Gauges.Read m.vm.metrics m'.vm.metrics
  sampleTaken : m.sampleTaken t w = some m'.vm.metrics.counters
  timesRead : m.timesRead t w = timesOf ((m.readTimes src).run x).1
  tracker : m'.tracker = (({ m with vm := m'.vm }.readThreads src).run (m.tracker, x)).2.1
  report : ∀ r, result = .report r → r.row.metrics = m'.vm.metrics ∧ ∃ peak started,
    (({ m with vm := m'.vm }.readThreads src).run (m.tracker, x)).1 = .ok (peak, started, r.threads)

/-- A cycle either reads nothing beyond the update, or reads the threads from one source. -/
theorem cycle_cases {m m' : DetailMonitor} {w w' : ω} {result : DetailCycle}
    (h : m.cycle t w = (result, m', w')) :
    (m.timesRead t w = none ∧ m'.tracker = m.tracker ∧ ∀ r, result ≠ .report r) ∨
      ∃ src x, ReadsFrom t m w src x result m' := by
  rw [cycle_eq] at h
  have hread := read_of_updated t (m := m) (w := w)
  have hsample : (m.updated t w).1.vm.state (m.updated t w).1.registry = .attached →
      m.sampleTaken t w = some (m.updated t w).1.vm.metrics.counters :=
    TrackedVm.sampleTaken_of_attached t
  have htracker := updated_tracker t m w
  rcases hu : m.updated t w with ⟨m₁, world⟩
  simp only [hu, conclude] at h hread hsample htracker
  by_cases hs : m₁.vm.state m₁.registry = .attached
  · simp only [hs] at h
    rcases TrackedVm.read_cases t m₁.vm world with hnone | ⟨src, x, hsome⟩
    · left
      rcases hr : m₁.vm.read t m₁.readings world with ⟨_, world'⟩
      obtain rfl := (congrArg Prod.fst hr).symm.trans (hnone _)
      simp only [hr, Prod.mk.injEq] at h
      obtain ⟨rfl, rfl, -⟩ := h
      exact ⟨by simp [timesRead, hu, hs, hnone], htracker, fun r => by simp⟩
    · right
      have htimes : m.timesRead t w = timesOf ((m.readTimes src).run x).1 := by
        have hsame := updated_readTimes t m w src
        rw [hu] at hsame
        simp only [timesRead, hu, hs, if_true, hsome, Option.bind_some, ← hsame]
        rfl
      have hthreads := updated_readThreads t m w src
      rw [hu] at hthreads
      have hx := hsome m₁.readings
      simp only [StateT.run, readings, hthreads, htracker] at hx
      rcases hr : m₁.vm.read t m₁.readings world with ⟨_, world'⟩
      obtain rfl := (congrArg Prod.fst hr).symm.trans hx
      rcases hrun : ({ m with vm := m₁.vm }.readThreads src).run (m.tracker, x)
        with ⟨e | ⟨peak, started, threads⟩, tracker, x'⟩
      · simp only [hr, hrun, Prod.mk.injEq] at h
        obtain ⟨rfl, rfl, -⟩ := h
        refine ⟨src, x, hread hs, hsample hs, htimes, ?_, fun r => by simp⟩
        rw [hrun]
      · simp only [hr, hrun, Prod.mk.injEq] at h
        obtain ⟨rfl, rfl, -⟩ := h
        refine ⟨src, x, hread hs, hsample hs, htimes, ?_, ?_⟩
        · rw [hrun]
        · rintro r ⟨⟩
          exact ⟨rfl, peak, started, by rw [hrun]; rfl⟩
  · left
    have htimes : m.timesRead t w = none := by
      simp only [timesRead, hu, hs, if_false]
    cases hs' : m₁.vm.state m₁.registry
    case attached => exact absurd hs' hs
    all_goals
      simp only [hs', Prod.mk.injEq] at h
      obtain ⟨rfl, rfl, -⟩ := h
      exact ⟨htimes, htracker, fun r => by simp⟩

section

variable {t} {m m' : DetailMonitor} {w w' : ω} {result : DetailCycle}

/-- The metrics that a cycle leaves are those of its update. -/
theorem cycle_vm (h : m.cycle t w = (result, m', w')) : m'.vm = (m.updated t w).1.vm := by
  rw [cycle_eq, conclude] at h
  split at h
  · split at h <;> exact (congrArg (·.2.1.vm) h).symm
  · exact (congrArg (·.2.1.vm) h).symm
  · exact (congrArg (·.2.1.vm) h).symm

/-- The baseline is the sample of the last cycle that took one in. -/
theorem cycle_baseline (h : m.cycle t w = (result, m', w')) :
    m'.vm.metrics.baseline = (m.sampleTaken t w).getD m.vm.metrics.baseline := by
  rw [cycle_vm h]
  exact TrackedVm.baseline_of_update t

/-- Retained are the times of the last cycle that read them all. -/
theorem cycle_retained (h : m.cycle t w = (result, m', w')) :
    m'.tracker.retained = (m.timesRead t w).getD m.tracker.retained := by
  rcases cycle_cases t h with ⟨hnone, hsame, -⟩ | ⟨src, x, hfrom⟩
  · rw [hnone, hsame]
    rfl
  · rw [hfrom.tracker, readThreads_tracker, hfrom.timesRead]
    rfl

/-- A cycle that has read all thread times has taken a sample in. -/
theorem sampleTaken_of_timesRead (h : m.cycle t w = (result, m', w'))
    (htimes : (m.timesRead t w).isSome) : m.sampleTaken t w = some m'.vm.metrics.counters := by
  rcases cycle_cases t h with ⟨hnone, -, -⟩ | ⟨src, x, hfrom⟩
  · simp [hnone] at htimes
  · exact hfrom.sampleTaken

/-- A report is about the sample of its cycle. -/
theorem read_of_report {r : DetailReport} (h : m.cycle t w = (.report r, m', w')) :
    Gauges.Read m.vm.metrics r.row.metrics ∧ m.sampleTaken t w = some r.row.metrics.counters := by
  rcases cycle_cases t h with ⟨-, -, hno⟩ | ⟨src, x, hfrom⟩
  · exact absurd rfl (hno r)
  · obtain ⟨hmetrics, -⟩ := hfrom.report r rfl
    exact hmetrics ▸ ⟨hfrom.read, hfrom.sampleTaken⟩

/-- A row divides what a thread's time has grown by since the retained times were read. -/
theorem exists_of_mem_rows {r : DetailReport} (h : m.cycle t w = (.report r, m', w'))
    {row : ThreadRow} (hrow : row ∈ r.threads.rows) :
    ∃ before now, Table.get? row.tid m.tracker.retained = some before ∧
      (row.tid, now) ∈ m'.tracker.retained ∧
      row.cpuPercent = cyclePercent (Counter.sub now before) r.row.metrics.deltaUptimeMs := by
  have hretained := cycle_retained h
  rcases cycle_cases t h with ⟨-, -, hno⟩ | ⟨src, x, hfrom⟩
  · exact absurd rfl (hno r)
  obtain ⟨hmetrics, peak, started, hthreads⟩ := hfrom.report r rfl
  obtain ⟨times, delta, htimes, hdelta, hshare⟩ := readThreads_rows hthreads hrow
  obtain ⟨before, now, hbefore, hnow, rfl⟩ := mem_entries_rankThreads hdelta
  refine ⟨before, now, hbefore, ?_, hmetrics ▸ hshare⟩
  rw [hretained, hfrom.timesRead]
  exact htimes ▸ hnow

end

/-! ### Runs of cycles -/

/-- What the rows of the next report are about: the times of all threads that were read last, the sample
of the cycle that has read them, and the samples that were taken in since by cycles that have not. -/
structure Span where
  times : ThreadTimes
  start : RawSample
  since : List RawSample := []

/-- The sample that was taken in last. -/
def Span.last (x : Span) : RawSample := x.since.getLastD x.start

/-- The span after a cycle. -/
def spanAfter (m : DetailMonitor) (w : ω) (past : Option Span) : Option Span :=
  match m.sampleTaken t w, m.timesRead t w with
  | some s, some times => some { times, start := s }
  | some s, none => past.map fun x => { x with since := x.since ++ [s] }
  | none, _ => past

/-- The cycles of a monitor of one instance, with the span that they leave, once all thread times were
read. Between two cycles anything may happen to the peers. -/
inductive Watched (directory : Directory ω) : DetailMonitor → ω → Option Span → Prop
  | opened {id : InstanceId} {limit : Option Nat} {withThreads : Bool} {m : DetailMonitor} {w w' : ω} :
      DetailMonitor.open t directory id limit withThreads w = (.ok m, w') →
      Watched directory m w' none
  | cycle {m m' : DetailMonitor} {w w' : ω} {past : Option Span} {result : DetailCycle} :
      Watched directory m w past → m.cycle t w = (result, m', w') →
      Watched directory m' w' (m.spanAfter t w past)
  | elsewhere {m : DetailMonitor} {w : ω} {past : Option Span} (w' : ω) :
      Watched directory m w past → Watched directory m w' past

variable {t} {directory : Directory ω}

/-- The monitor holds what the span says: the tracker its times, and the metrics its last sample. -/
structure Holds (m : DetailMonitor) (past : Option Span) : Prop where
  retained : m.tracker.retained = (past.map (·.times)).getD []
  baseline : ∀ x, past = some x → m.vm.metrics.baseline = x.last

/-- **The step**: a cycle keeps the two in accord with the span. -/
theorem Holds.cycle {m m' : DetailMonitor} {w w' : ω} {past : Option Span} {result : DetailCycle}
    (h : m.Holds past) (hc : m.cycle t w = (result, m', w')) : m'.Holds (m.spanAfter t w past) := by
  have hretained := cycle_retained hc
  have hbaseline := cycle_baseline hc
  cases hsample : m.sampleTaken t w with
  | none =>
    have htimes : m.timesRead t w = none := by
      by_contra hsome
      have htaken := sampleTaken_of_timesRead hc (Option.isSome_iff_ne_none.2 hsome)
      cases hsample.symm.trans htaken
    rw [htimes] at hretained
    rw [hsample] at hbaseline
    simp only [spanAfter, hsample]
    exact ⟨hretained.trans h.retained, fun x hx => hbaseline.trans (h.baseline x hx)⟩
  | some s =>
    rw [hsample] at hbaseline
    cases htimes : m.timesRead t w with
    | some times =>
      rw [htimes] at hretained
      simp only [spanAfter, hsample, htimes]
      refine ⟨hretained, ?_⟩
      rintro x ⟨⟩
      exact hbaseline
    | none =>
      rw [htimes] at hretained
      simp only [spanAfter, hsample, htimes]
      refine ⟨?_, fun x hx => ?_⟩
      · rw [Option.map_map]
        exact hretained.trans h.retained
      · obtain ⟨x₀, -, rfl⟩ := Option.map_eq_some_iff.1 hx
        simpa [Span.last] using hbaseline

/-- **The run.** Whatever happens in a run, the tracker retains the times of its span, and the baseline
is the last sample of that. -/
theorem Watched.span {m : DetailMonitor} {w : ω} {past : Option Span}
    (h : Watched t directory m w past) : m.Holds past := by
  induction h with
  | @opened id limit withThreads m w w' hopen =>
    simp only [DetailMonitor.open] at hopen
    split at hopen
    · cases hopen
    · cases hopen
      exact ⟨rfl, nofun⟩
  | cycle _ hc ih => exact ih.cycle hc
  | elsewhere _ _ ih => exact ih

/-- **The windows.** Whatever happened in the cycles before, a report with rows compares the times of
threads with those of the last cycle that read them all, and divides by the difference of uptimes in the
metrics. If its sample is compared with the last one that was taken in, that is the time between these
two. So it is the time between the two readings of the threads, if no other sample was taken in
since the first of them. If the sample is not compared, it is the difference that was there before. -/
theorem windows {m m' : DetailMonitor} {w w' : ω} {past : Option Span} {r : DetailReport}
    (h : Watched t directory m w past) (hc : m.cycle t w = (.report r, m', w'))
    (hrows : r.threads.rows ≠ []) :
    ∃ x, past = some x ∧ m.sampleTaken t w = some r.row.metrics.counters ∧
      (∀ row ∈ r.threads.rows, ∃ before now, Table.get? row.tid x.times = some before ∧
        (row.tid, now) ∈ m'.tracker.retained ∧
        row.cpuPercent = cyclePercent (Counter.sub now before) r.row.metrics.deltaUptimeMs) ∧
      (x.last.Compares r.row.metrics.counters → r.row.metrics.deltaUptimeMs =
        Counter.sub r.row.metrics.uptimeMs x.last.uptimeMs) ∧
      (x.since = [] → x.start.Compares r.row.metrics.counters → r.row.metrics.deltaUptimeMs =
        Counter.sub r.row.metrics.uptimeMs x.start.uptimeMs) ∧
      (¬ x.last.Compares r.row.metrics.counters →
        r.row.metrics.deltaUptimeMs = m.vm.metrics.deltaUptimeMs) := by
  have hspan := h.span
  obtain ⟨hread, hsample⟩ := read_of_report hc
  obtain ⟨row, hrow⟩ := List.exists_mem_of_ne_nil _ hrows
  have hshares (row : ThreadRow) (hrow : row ∈ r.threads.rows) := exists_of_mem_rows hc hrow
  rw [hspan.retained] at hshares
  cases past with
  | none =>
    obtain ⟨before, -, hbefore, -⟩ := hshares row hrow
    simp [Table.get?] at hbefore
  | some x =>
    have hlast := hspan.baseline x rfl
    have hcompared (hx : x.last.Compares r.row.metrics.counters) : r.row.metrics.deltaUptimeMs =
        Counter.sub r.row.metrics.uptimeMs x.last.uptimeMs := by
      rw [← hlast] at hx ⊢
      exact hread.deltaUptimeMs hx
    refine ⟨x, rfl, hsample, hshares, hcompared, fun hnone hx => ?_, fun hx => ?_⟩
    · have hstart : x.last = x.start := by rw [Span.last, hnone, List.getLastD_nil]
      rw [← hstart] at hx ⊢
      exact hcompared hx
    · rw [← hlast] at hx
      exact hread.deltaUptimeMs_of_not_compares hx

/-! ### A busy thread -/

/-- An instance with one thread, which is busy for eight tenths of each second, while `gcMs` milliseconds
of it go into the collection of garbage. In some of the seconds nobody tells which threads there are. -/
def busy (gcMs : Int) (silent : List Int) : ScenarioInstance where
  pid := 7
  samples := [1, 2, 3].map fun (n : Int) => {
    uptimeMs := 1000 * n
    cpuTimeNs := 900000000 * n
    gc := [{ name := "G1", timeMs := gcMs * n }]
    threads := [{ id := 1, name := "main", cpuTimeNs := 800000000 * n }]
    brokenAttributes := if n ∈ silent then ["AllThreadIds"] else [] }

/-- The monitor of an instance that is alone in its scenario, after some cycles of a second each. -/
def watching (i : ScenarioInstance) : Nat → Option (DetailMonitor × Replay × Option Span)
  | 0 =>
    match DetailMonitor.open Replay.transport Replay.directory i.pid none true (.new ⟨none, [i]⟩) with
    | (.ok m, r) => some (m, r, none)
    | (.error _, _) => none
  | n + 1 => (watching i n).map fun (m, r, past) =>
    let (_, m', r') := m.cycle Replay.transport r
    (m', r'.tick, m.spanAfter Replay.transport r past)

theorem watched_watching {i : ScenarioInstance} {n : Nat} {m : DetailMonitor} {r : Replay}
    {past : Option Span} (h : watching i n = some (m, r, past)) :
    Watched Replay.transport Replay.directory m r past := by
  induction n generalizing m r past with
  | zero =>
    rw [watching] at h
    split at h
    · cases h
      exact .opened ‹_›
    · cases h
  | succ n ih =>
    obtain ⟨⟨m₀, r₀, past₀⟩, h₀, heq⟩ := Option.map_eq_some_iff.1 h
    rcases hc : m₀.cycle Replay.transport r₀ with ⟨result, m₁, r₁⟩
    simp only [hc] at heq
    cases heq
    exact .elsewhere _ (.cycle (ih h₀) hc)

/-- The report that a cycle ends in, if it ends in one. -/
def report? : DetailCycle → Option DetailReport
  | .report r => some r
  | _ => none

/-- After some cycles, a report with rows: the uptime that was read with the retained times, that of the
report, and the elapsed time that it divides by. -/
def reported (i : ScenarioInstance) (n : Nat) : Option (Int × Int × Int) := do
  let (m, r, past) ← watching i n
  let x ← past
  let report ← report? (m.cycle Replay.transport r).1
  if report.threads.rows.isEmpty then none
  else some (x.start.uptimeMs, report.row.metrics.uptimeMs, report.row.metrics.deltaUptimeMs)

theorem exists_of_reported {i : ScenarioInstance} {n : Nat} {start now elapsed : Int}
    (h : reported i n = some (start, now, elapsed)) :
    ∃ m w x r m' w', Watched Replay.transport Replay.directory m w (some x) ∧
      m.cycle Replay.transport w = (.report r, m', w') ∧ r.threads.rows ≠ [] ∧
      x.start.uptimeMs = start ∧ r.row.metrics.uptimeMs = now ∧
      r.row.metrics.deltaUptimeMs = elapsed := by
  obtain ⟨⟨m, w, past⟩, hwatching, hspan⟩ := Option.bind_eq_some_iff.1 h
  obtain ⟨x, hx, hends⟩ := Option.bind_eq_some_iff.1 hspan
  obtain ⟨r, hr, htold⟩ := Option.bind_eq_some_iff.1 hends
  obtain rfl : past = some x := hx
  rcases hc : m.cycle Replay.transport w with ⟨result, m', w'⟩
  simp only [hc] at hr
  cases result with
  | report r' =>
    obtain rfl : r' = r := Option.some.inj hr
    by_cases hrows : r'.threads.rows.isEmpty
    · simp [hrows] at htold
    · simp only [hrows, Bool.false_eq_true, if_false, Option.some.injEq, Prod.mk.injEq] at htold
      obtain ⟨hstart, hnow, helapsed⟩ := htold
      refine ⟨m, w, x, r', m', w', watched_watching hwatching, hc, ?_, hstart, hnow, helapsed⟩
      simpa using hrows
  | fetchFailed => cases hr
  | notAttached => cases hr

/-- **Windows that are not one.** Without garbage collection no sample is compared, and the work of one
second is divided by no time at all. With some, if the threads cannot be read in the second cycle, the
third one divides the work of two seconds by one. -/
theorem windows_apart :
    (∃ m w x r m' w', Watched Replay.transport Replay.directory m w (some x) ∧
      m.cycle Replay.transport w = (.report r, m', w') ∧ r.threads.rows ≠ [] ∧
      r.row.metrics.uptimeMs - x.start.uptimeMs = 1000 ∧ r.row.metrics.deltaUptimeMs = 0) ∧
    ∃ m w x r m' w', Watched Replay.transport Replay.directory m w (some x) ∧
      m.cycle Replay.transport w = (.report r, m', w') ∧ r.threads.rows ≠ [] ∧
      r.row.metrics.uptimeMs - x.start.uptimeMs = 2000 ∧ r.row.metrics.deltaUptimeMs = 1000 := by
  have huncollected : reported (busy 0 []) 1 = some (1000, 2000, 0) := by decide +kernel
  have hsilent : reported (busy 1 [2]) 2 = some (1000, 3000, 1000) := by decide +kernel
  constructor
  · obtain ⟨m, w, x, r, m', w', h, hc, hrows, hstart, hnow, helapsed⟩ :=
      exists_of_reported huncollected
    exact ⟨m, w, x, r, m', w', h, hc, hrows, by rw [hstart, hnow]; rfl, helapsed⟩
  · obtain ⟨m, w, x, r, m', w', h, hc, hrows, hstart, hnow, helapsed⟩ := exists_of_reported hsilent
    exact ⟨m, w, x, r, m', w', h, hc, hrows, by rw [hstart, hnow]; rfl, helapsed⟩

/-- With some, and with the threads read in every cycle, the row of the second cycle is about that
second. -/
theorem windows_with_collection : ∃ m w x r m' w',
    Watched Replay.transport Replay.directory m w (some x) ∧
      m.cycle Replay.transport w = (.report r, m', w') ∧ r.threads.rows ≠ [] ∧
      x.start.uptimeMs = 1000 ∧ r.row.metrics.uptimeMs = 2000 ∧
      ∀ row ∈ r.threads.rows, ∃ before now, Table.get? row.tid x.times = some before ∧
        (row.tid, now) ∈ m'.tracker.retained ∧
        row.cpuPercent = cyclePercent (Counter.sub now before) 1000 := by
  have hreported : reported (busy 1 []) 1 = some (1000, 2000, 1000) := by decide +kernel
  obtain ⟨m, w, x, r, m', w', h, hc, hrows, hstart, hnow, helapsed⟩ := exists_of_reported hreported
  obtain ⟨x', hx', -, hshares, -⟩ := windows h hc hrows
  obtain rfl := Option.some.inj hx'
  rw [helapsed] at hshares
  exact ⟨m, w, x, r, m', w', h, hc, hrows, hstart, hnow, hshares⟩

end DetailMonitor

end VmMonitor
