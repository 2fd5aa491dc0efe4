import Mathlib.Logic.Function.Iterate
import VmMonitor.Program
import VmMonitor.Proofs.Scenario.Watching

/-!
# Frames of a run

A run shows one frame after another until it is over: because its view is, because there were enough
frames, or because a listing failed. The clock of the replay moves with the frames, so the frame `k`
is rendered while the clock is `k`.

The loop is taken apart first, for any view: `Run.play_eq` says what it shows if it is known which
frame is the last. The views then only have to say what their frames are.

## What is proved

* `Run.play_eq` — **the loop**: the frames up to the one after which the run is over.
* `Run.next_onWatch`, `Run.next_onDetail` — **one frame** of an overview, and of a view of one instance.
* `Run.play_onWatch`, `Run.play_onDetail` — all frames of the two, and what the run has come to.
-/

namespace VmMonitor

/-! ### The loop -/

namespace Run

variable (bars : Nat → String)

/-- The next frame of a run. -/
def frame (r : Run) : String := (r.step (bars r.completed)).1

/-- The run after its next frame. -/
def next (r : Run) : Run := (r.step (bars r.completed)).2

theorem play_of_isOver {r : Run} (h : (r.next bars).isOver) (most : Nat) :
    r.play bars (most + 1) = (r.frame bars, r.next bars) := by
  simp only [play, next, frame] at h ⊢
  rw [if_pos h]

theorem play_of_not_isOver {r : Run} (h : (r.next bars).isOver = false) (most : Nat) :
    r.play bars (most + 1) =
      (r.frame bars ++ ((r.next bars).play bars most).1, ((r.next bars).play bars most).2) := by
  simp only [next] at h
  simp only [play, h, Bool.false_eq_true, if_false, next, frame]

/-- **The loop** shows the frames up to the one after which the run is over, and none after it. -/
theorem play_eq {r : Run} {m most : Nat} (hgoes : ∀ k < m, ((next bars)^[k + 1] r).isOver = false)
    (hends : ((next bars)^[m + 1] r).isOver) (hmost : m < most) :
    r.play bars most =
      (String.join ((List.range (m + 1)).map fun k => ((next bars)^[k] r).frame bars),
        (next bars)^[m + 1] r) := by
  induction m generalizing r most with
  | zero =>
    obtain ⟨most, rfl⟩ := Nat.exists_eq_add_of_lt hmost
    rw [Nat.zero_add, play_of_isOver bars hends]
    simp
  | succ m ih =>
    obtain ⟨most, rfl⟩ := Nat.exists_eq_add_of_lt (Nat.lt_of_le_of_lt (Nat.zero_le _) hmost)
    have hfirst : (r.next bars).isOver = false := hgoes 0 (Nat.succ_pos m)
    have hrest := ih (r := r.next bars) (fun k hk => hgoes (k + 1) (by omega)) hends
      (by omega : m < most)
    rw [Nat.zero_add, play_of_not_isOver bars hfirst, hrest, List.range_succ_eq_map (n := m + 1),
      List.map_cons, String.join_cons, List.map_map]
    rfl

theorem finish_of_play {bars : Nat → String} {r r' : Run} {most : Nat} {shown : String}
    (h : r.play bars most = (shown, r')) :
    r.finish bars most = r'.close.2.outcome (shown ++ r'.close.1) := by
  rw [finish, h]

theorem outcome_output (output : String) (r : Run) : (r.outcome output).output = output := rfl

theorem outcome_code (output : String) (r : Run) :
    (r.outcome output).code = if r.failure.isSome then 1 else 0 := rfl

theorem close_text (r : Run) : r.close.1 =
    "Finish execution ... " ++ Overview.finalReading r.view.published ++ "done!\n" := rfl

theorem close_failure (r : Run) : r.close.2.failure = r.failure := rfl

end Run

/-! ### The overview -/

/-- Whether a listing is due in a cycle and cannot be had. -/
def Scenario.scanFails (s : Scenario) (interval cycle : Nat) : Bool :=
  cycle % max interval 1 = 0 && s.discoveryFailsAt.any (· ≤ cycle)

namespace Monitor

variable {ω : Type} {t : Transport ω} {directory : Directory ω} {m m' : Monitor} {w w' : ω}

/-- A cycle that comes to its end publishes what it returns. -/
theorem cycle_published_of_ok {rows : List InstanceRow}
    (h : m.cycle t directory w = (.ok rows, m', w')) : m'.published = rows := by
  simp only [cycle] at h
  split at h
  · cases h
  · simp only [Prod.mk.injEq, Except.ok.injEq] at h
    obtain ⟨rfl, rfl, -⟩ := h
    rfl

/-- A cycle without a listing publishes nothing. -/
theorem cycle_published_of_error {e : MonitorError}
    (h : m.cycle t directory w = (.error e, m', w')) : m'.published = m.published := by
  simp only [cycle] at h
  split at h
  · simp only [Prod.mk.injEq] at h
    obtain ⟨-, rfl, -⟩ := h
    rfl
  · cases h

end Monitor

namespace Replay

variable {order : SortOrder} {interval k : Nat} {s : Scenario}

theorem listing_isOk_iff : (Monitor.listing s interval k).isOk ↔ s.scanFails interval k = false := by
  simp only [Monitor.listing, Replay.list, Scenario.scanFails]
  split_ifs <;> simp_all [Except.isOk, Except.toBool]

theorem watch_succ (order : SortOrder) (interval : Nat) (s : Scenario) (k : Nat) :
    watch order interval s (k + 1) =
      (((watch order interval s k).1.cycle transport directory (watch order interval s k).2).2.1,
        ((watch order interval s k).1.cycle transport directory
          (watch order interval s k).2).2.2.tick) := rfl

/-- A cycle that has its listing, or needs none, comes to its end. -/
theorem watch_succ_of_not_scanFails (order : SortOrder) (h : s.scanFails interval k = false) :
    ∃ rows, shown order interval s k = .ok rows ∧
      ∃ r, (watch order interval s k).1.cycle transport directory (watch order interval s k).2 =
        (.ok rows, (watch order interval s (k + 1)).1, r) ∧
        r.tick = (watch order interval s (k + 1)).2 := by
  cases hl : Monitor.listing s interval k with
  | error e =>
    have hok := listing_isOk_iff.2 h
    rw [hl] at hok
    cases hok
  | ok ds =>
    obtain ⟨m', r', hc, -, -⟩ := (watch_watches order interval s k).cycle_of_ok hl
    refine ⟨_, congrArg Prod.fst hc, r', ?_, ?_⟩
    · rw [watch_succ, hc]
    · rw [watch_succ, hc]

/-- A cycle that is due for a listing and has none leaves the replay as it was. -/
theorem cycle_of_scanFails (order : SortOrder) (h : s.scanFails interval k) :
    ∃ e m', (watch order interval s k).1.cycle transport directory (watch order interval s k).2 =
      (.error e, m', (watch order interval s k).2) := by
  cases hl : Monitor.listing s interval k with
  | ok ds =>
    have hok := listing_isOk_iff.1 (congrArg Except.isOk hl)
    simp [h] at hok
  | error e =>
    obtain ⟨m', hc, -, -⟩ := (watch_watches order interval s k).cycle_of_error hl
    exact ⟨e, m', hc⟩

end Replay

namespace Run

/-- What clears the screen for a frame of a run of `n` frames. -/
def clearing (n : Nat) : String := if n = 1 then "" else clearScreen

theorem clearing_eq {r : Run} {n : Nat} (hlimit : r.frameLimit = n) (hview : r.view.clears) :
    (if r.clears then clearScreen else "") = clearing n := by
  simp only [clears, hview, hlimit, Bool.true_and, clearing]
  by_cases hn : n = 1
  · subst hn
    rfl
  · have hne : (n : Int) ≠ 1 := by omega
    simp [hn, hne]

theorem isOver_eq {r : Run} {n : Nat} (hlimit : r.frameLimit = n) (hn : 1 ≤ n) :
    r.isOver = (r.failure.isSome || r.view.isOver || decide (n ≤ r.completed)) := by
  have hpos : 0 < n := hn
  simp [isOver, hlimit, hpos]

section

variable (bars : Nat → String) (order : SortOrder) (interval : Nat) (s : Scenario) {r : Run}
  {k m n most : Nat}

/-- The run of an overview before the frame `k`. -/
def onWatch (r : Run) (k : Nat) : Run :=
  { r with
    view := .overview (Replay.watch order interval s k).1
    replay := (Replay.watch order interval s k).2
    completed := k }

/-- **One frame** of an overview. -/
theorem next_onWatch (hlimit : r.frameLimit = n) (h : s.scanFails interval k = false) :
    ∃ rows, Replay.shown order interval s k = .ok rows ∧
      (onWatch order interval s r k).frame bars = clearing n ++ bars k ++ Overview.frame rows ∧
      (onWatch order interval s r k).next bars = onWatch order interval s r (k + 1) := by
  obtain ⟨rows, hshown, peers, hc, hpeers⟩ :=
    Replay.watch_succ_of_not_scanFails order h
  have hclear : (if (onWatch order interval s r k).clears then clearScreen else "") = clearing n :=
    clearing_eq hlimit rfl
  have hrender : (onWatch order interval s r k).view.render Replay.transport Replay.directory
      (onWatch order interval s r k).replay =
        (.ok (Overview.frame rows), .overview (Replay.watch order interval s (k + 1)).1, peers) := by
    simp only [onWatch, View.render, hc]
    rfl
  refine ⟨rows, hshown, ?_, ?_⟩
  · simp only [frame, step, hrender, hclear]
    rfl
  · simp only [next, step, hrender, hpeers]
    rfl

/-- The frame of an overview that has no listing: nothing is shown, and the run has failed. -/
theorem next_onWatch_of_scanFails (h : s.scanFails interval k) :
    (onWatch order interval s r k).frame bars = "" ∧
      ((onWatch order interval s r k).next bars).failure.isSome ∧
      ((onWatch order interval s r k).next bars).completed = k ∧
      ((onWatch order interval s r k).next bars).replay = (Replay.watch order interval s k).2 ∧
      ((onWatch order interval s r k).next bars).view.published =
        (Replay.watch order interval s k).1.published := by
  obtain ⟨e, m', hc⟩ := Replay.cycle_of_scanFails order h
  have hrender : (onWatch order interval s r k).view.render Replay.transport Replay.directory
      (onWatch order interval s r k).replay =
        (.error e, .overview m', (Replay.watch order interval s k).2) := by
    simp only [onWatch, View.render, hc]
    rfl
  have hstep : (onWatch order interval s r k).step (bars k) =
      ("", { onWatch order interval s r k with
        view := .overview m', replay := (Replay.watch order interval s k).2, failure := some e }) := by
    simp only [step, hrender]
  have hnext := congrArg Prod.snd hstep
  have hpublished := Monitor.cycle_published_of_error hc
  refine ⟨congrArg Prod.fst hstep, ?_⟩
  rw [next, show (onWatch order interval s r k).completed = k from rfl, hnext]
  exact ⟨rfl, rfl, rfl, hpublished⟩

theorem iterate_onWatch (hlimit : r.frameLimit = n) (h : ∀ j < k, s.scanFails interval j = false) :
    (next bars)^[k] (onWatch order interval s r 0) = onWatch order interval s r k := by
  induction k with
  | zero => rfl
  | succ k ih =>
    obtain ⟨rows, -, -, hnext⟩ := next_onWatch bars order interval s hlimit (h k (Nat.lt_succ_self k))
    rw [Function.iterate_succ_apply', ih fun j hj => h j (Nat.lt_succ_of_lt hj), hnext]

/-- The frames of an overview, as long as no listing that is due fails. -/
theorem frames_onWatch (hlimit : r.frameLimit = n) (h : ∀ k < m, s.scanFails interval k = false) :
    ∃ rows : Nat → List InstanceRow, ∀ k < m, Replay.shown order interval s k = .ok (rows k) ∧
      ((next bars)^[k] (onWatch order interval s r 0)).frame bars =
        clearing n ++ bars k ++ Overview.frame (rows k) := by
  have hframe (k : Nat) : ∃ rows, k < m → Replay.shown order interval s k = .ok rows ∧
      ((next bars)^[k] (onWatch order interval s r 0)).frame bars =
        clearing n ++ bars k ++ Overview.frame rows := by
    by_cases hk : k < m
    · obtain ⟨rows, hshown, hrows, -⟩ := next_onWatch bars order interval s hlimit (h k hk)
      have hat := iterate_onWatch bars order interval s hlimit fun j hj => h j (Nat.lt_trans hj hk)
      exact ⟨rows, fun _ => ⟨hshown, hat ▸ hrows⟩⟩
    · exact ⟨[], fun hlt => absurd hlt hk⟩
  choose rows hrows using hframe
  exact ⟨rows, hrows⟩

/-- How many frames an overview shows: as many as it may, or those before the first listing that is
due and fails. -/
def framesOf (s : Scenario) (interval n : Nat) : Nat :=
  ((List.range n).find? (s.scanFails interval)).getD n

theorem framesOf_spec (s : Scenario) (interval n : Nat) :
    framesOf s interval n ≤ n ∧ (∀ k < framesOf s interval n, s.scanFails interval k = false) ∧
      (framesOf s interval n < n → s.scanFails interval (framesOf s interval n)) := by
  cases hfind : (List.range n).find? (s.scanFails interval) with
  | none =>
    have hnone := List.find?_range_eq_none.1 hfind
    simp only [framesOf, hfind, Option.getD_none]
    exact ⟨Nat.le_refl n, fun k hk => by simpa using hnone k hk, fun hlt => absurd hlt (Nat.lt_irrefl n)⟩
  | some m =>
    obtain ⟨hfails, hm, hbefore⟩ := List.find?_range_eq_some.1 hfind
    simp only [framesOf, hfind, Option.getD_some]
    exact ⟨Nat.le_of_lt (List.mem_range.1 hm), fun k hk => by simpa using hbefore k hk, fun _ => hfails⟩

/-- Fewer frames than it may are shown just if a listing is due and fails before. -/
theorem framesOf_lt_iff : framesOf s interval n < n ↔ ∃ k < n, s.scanFails interval k := by
  obtain ⟨hle, hbefore, hfails⟩ := framesOf_spec s interval n
  constructor
  · exact fun hlt => ⟨_, hlt, hfails hlt⟩
  · rintro ⟨k, hk, hfailed⟩
    by_contra hnot
    have hnone := hbefore k (by omega)
    simp [hfailed] at hnone

theorem isOver_onWatch (hr : r.failure = none) (hlimit : r.frameLimit = n) (hn : 1 ≤ n) (k : Nat) :
    (onWatch order interval s r k).isOver = decide (n ≤ k) := by
  rw [isOver_eq (r := onWatch order interval s r k) hlimit hn]
  simp [onWatch, hr, View.isOver]

/-- **The overview** shows the rows of each cycle that has its listing, or needs none, up to the limit
or to the first cycle that is due for a listing and has none. -/
theorem play_onWatch (hr : r.failure = none) (hlimit : r.frameLimit = n) (hn : 1 ≤ n)
    (hmost : n ≤ most) (hm : m = framesOf s interval n) :
    ∃ rows : Nat → List InstanceRow, (∀ k < m, Replay.shown order interval s k = .ok (rows k)) ∧
      ∃ r', (onWatch order interval s r 0).play bars most =
          (String.join ((List.range m).map fun k =>
            clearing n ++ bars k ++ Overview.frame (rows k)), r') ∧
        r'.completed = m ∧ r'.replay = (Replay.watch order interval s m).2 ∧
        r'.view.published = (Replay.watch order interval s m).1.published ∧
        (r'.failure.isSome ↔ m < n) := by
  obtain ⟨hle, hbefore, hfails⟩ := framesOf_spec s interval n
  rw [← hm] at hle hbefore hfails
  obtain ⟨rows, hrows⟩ := frames_onWatch bars order interval s (r := r) hlimit hbefore
  refine ⟨rows, fun k hk => (hrows k hk).1, ?_⟩
  have hat (k : Nat) (hk : k ≤ m) :
      (next bars)^[k] (onWatch order interval s r 0) = onWatch order interval s r k :=
    iterate_onWatch bars order interval s hlimit fun j hj => hbefore j (Nat.lt_of_lt_of_le hj hk)
  have hshown : ((List.range m).map fun k =>
      ((next bars)^[k] (onWatch order interval s r 0)).frame bars) =
        (List.range m).map fun k => clearing n ++ bars k ++ Overview.frame (rows k) :=
    List.map_congr_left fun k hk => (hrows k (List.mem_range.1 hk)).2
  have hgoes (k : Nat) (hk : k < m) (hlt : k + 1 < n) :
      ((next bars)^[k + 1] (onWatch order interval s r 0)).isOver = false := by
    rw [hat (k + 1) hk, isOver_onWatch order interval s hr hlimit hn]
    simp [hlt]
  rcases Nat.lt_or_eq_of_le hle with hlt | heq
  · -- The last frame is that of the failed listing, and shows nothing.
    obtain ⟨hnothing, hfailed, hcompleted, hreplay, hpublished⟩ :=
      next_onWatch_of_scanFails bars order interval s (r := r) (hfails hlt)
    have hlast : (next bars)^[m + 1] (onWatch order interval s r 0) =
        (onWatch order interval s r m).next bars := by
      rw [Function.iterate_succ_apply', hat m (Nat.le_refl m)]
    refine ⟨(onWatch order interval s r m).next bars, ?_, hcompleted, hreplay, hpublished,
      iff_of_true hfailed hlt⟩
    rw [play_eq bars (fun k hk => hgoes k hk (by omega)) ?_ (Nat.lt_of_lt_of_le hlt hmost), hlast,
      List.range_succ, List.map_append, List.map_singleton, hat m (Nat.le_refl m), hnothing, hshown,
      String.join_append]
    · simp
    · rw [hlast, isOver, hfailed]
      rfl
  · obtain ⟨p, rfl⟩ : ∃ p, m = p + 1 := ⟨m - 1, by omega⟩
    refine ⟨onWatch order interval s r (p + 1), ?_, rfl, rfl, rfl, ?_⟩
    · rw [play_eq bars (m := p) (fun k hk => hgoes k (by omega) (by omega)) ?_ (by omega),
        hat (p + 1) (Nat.le_refl _), hshown]
      rw [hat (p + 1) (Nat.le_refl _), isOver_onWatch order interval s hr hlimit hn]
      simp [heq]
    · exact iff_of_false (by simp [onWatch, hr]) (by omega)

end

end Run

/-! ### One instance -/

/-- The cycle has come to its report. -/
def DetailCycle.isReport : DetailCycle → Bool
  | report _ => true
  | _ => false

namespace DetailMonitor

variable (m : DetailMonitor) (r : Replay)

/-- The monitor of one instance and its replay, before the cycle `n`. -/
def watch : Nat → DetailMonitor × Replay
  | 0 => (m, r)
  | n + 1 =>
    let (m, r) := watch n
    let (_, m, r) := m.cycle Replay.transport r
    (m, r.tick)

/-- How the cycle `n` ends. -/
def told (n : Nat) : DetailCycle :=
  ((watch m r n).1.cycle Replay.transport (watch m r n).2).1

/-- The row of the instance after the update of a cycle. -/
def rowIn (n : Nat) : InstanceRow :=
  let (m, r) := watch m r n
  let (_, vm, world) := m.vm.update Replay.transport ⟨m.registry, r⟩
  vm.row world.registry

variable {ω : Type} (t : Transport ω)

/-- A cycle publishes the row of its update, however it ends. -/
theorem cycle_published (m : DetailMonitor) (w : ω) : (m.cycle t w).2.1.published =
    [(m.vm.update t ⟨m.registry, w⟩).2.1.row (m.vm.update t ⟨m.registry, w⟩).2.2.registry] := by
  simp only [cycle]
  split
  · split <;> rfl
  · rfl
  · rfl

theorem watch_published (n : Nat) : (watch m r (n + 1)).1.published = [rowIn m r n] :=
  cycle_published Replay.transport _ _

/-- How many frames there are of one instance: up to the first cycle without a report, at most `n`. -/
def framesOf (n : Nat) : Nat :=
  match (List.range n).find? fun k => !(told m r k).isReport with
  | some k => k + 1
  | none => n

end DetailMonitor

namespace Settings

variable (s : Settings)

/-- The view of one instance that settings ask for. -/
def viewOf (m : DetailMonitor) (ended : Bool) : View :=
  if s.isStatView then .stat m ended else .detail m s.nameWidth s.shownThreads ended

/-- What that view shows of a cycle. -/
def shownOf : DetailCycle → String
  | .report r =>
    if s.isStatView then Overview.statLine r.row ++ "\n" else r.frame s.nameWidth s.shownThreads
  | .fetchFailed =>
    if s.isStatView then "ERROR: Could not fetch telemetries - Process terminated.\n"
    else "ERROR: Could not fetch telemetries - Process terminated?\n"
  | .notAttached => View.notAttachedText

theorem render_viewOf {ω : Type} (t : Transport ω) (directory : Directory ω) (m : DetailMonitor)
    (ended : Bool) (w : ω) : (s.viewOf m ended).render t directory w =
      (.ok (s.shownOf (m.cycle t w).1), s.viewOf (m.cycle t w).2.1 (ended || !(m.cycle t w).1.isReport),
        (m.cycle t w).2.2) := by
  rcases hc : m.cycle t w with ⟨c, m', w'⟩
  by_cases hstat : s.isStatView
  · cases c <;> simp [viewOf, shownOf, View.render, DetailCycle.isReport, hstat, hc]
  · cases c <;> simp [viewOf, shownOf, View.render, DetailCycle.isReport, hstat, hc]

theorem clears_viewOf (m : DetailMonitor) (ended : Bool) :
    (s.viewOf m ended).clears = !s.isStatView := by
  cases hstat : s.isStatView <;> simp [viewOf, View.clears, hstat]

theorem hasTopBar_viewOf (m : DetailMonitor) (ended : Bool) :
    (s.viewOf m ended).hasTopBar = !s.isStatView := by
  cases hstat : s.isStatView <;> simp [viewOf, View.hasTopBar, hstat]

theorem isOver_viewOf (m : DetailMonitor) (ended : Bool) : (s.viewOf m ended).isOver = ended := by
  cases hstat : s.isStatView <;> simp [viewOf, View.isOver, hstat]

theorem published_viewOf (m : DetailMonitor) (ended : Bool) :
    (s.viewOf m ended).published = m.published := by
  cases hstat : s.isStatView <;> simp [viewOf, View.published, hstat]

end Settings

namespace Run

section

variable (bars : Nat → String) (s : Settings) (d : DetailMonitor) (peers : Replay) {r : Run}
  {k m n most : Nat}

/-- The run of a view of one instance before the frame `k`. -/
def onDetail (r : Run) (ended : Bool) (k : Nat) : Run :=
  { r with
    view := s.viewOf (d.watch peers k).1 ended
    replay := (d.watch peers k).2
    completed := k }

/-- What stands in front of a frame of one instance. -/
def above (n k : Nat) : String := if s.isStatView then "" else clearing n ++ bars k

theorem above_eq (hlimit : r.frameLimit = n) {ended ended' : Bool} {d d' : DetailMonitor}
    (hview : r.view = s.viewOf d ended) : (if r.clears then clearScreen else "") ++
      (if (s.viewOf d' ended').hasTopBar then bars k else "") = above bars s n k := by
  by_cases hstat : s.isStatView
  · simp [above, clears, hview, s.clears_viewOf, s.hasTopBar_viewOf, hstat]
  · have hclears : r.view.clears := by simp [hview, s.clears_viewOf, hstat]
    rw [clearing_eq hlimit hclears]
    simp [above, s.hasTopBar_viewOf, hstat]

/-- **One frame** of one instance. -/
theorem next_onDetail (hlimit : r.frameLimit = n) (ended : Bool) (k : Nat) :
    (onDetail s d peers r ended k).frame bars = above bars s n k ++ s.shownOf (d.told peers k) ∧
      (onDetail s d peers r ended k).next bars =
        onDetail s d peers r (ended || !(d.told peers k).isReport) (k + 1) := by
  have hrender : (onDetail s d peers r ended k).view.render Replay.transport Replay.directory
      (onDetail s d peers r ended k).replay = _ :=
    s.render_viewOf Replay.transport Replay.directory (d.watch peers k).1 ended (d.watch peers k).2
  have hstep : (onDetail s d peers r ended k).step (bars k) =
      (above bars s n k ++ s.shownOf (d.told peers k),
        onDetail s d peers r (ended || !(d.told peers k).isReport) (k + 1)) := by
    simp only [step, hrender]
    rw [above_eq (r := onDetail s d peers r ended k) bars s hlimit rfl]
    rfl
  exact ⟨congrArg Prod.fst hstep, congrArg Prod.snd hstep⟩

theorem iterate_onDetail (hlimit : r.frameLimit = n)
    (h : ∀ j < k, (d.told peers j).isReport) :
    (next bars)^[k] (onDetail s d peers r false 0) = onDetail s d peers r false k := by
  induction k with
  | zero => rfl
  | succ k ih =>
    rw [Function.iterate_succ_apply', ih fun j hj => h j (Nat.lt_succ_of_lt hj),
      (next_onDetail bars s d peers hlimit false k).2, h k (Nat.lt_succ_self k)]
    rfl

theorem isOver_onDetail (hr : r.failure = none) (hlimit : r.frameLimit = n) (hn : 1 ≤ n)
    (ended : Bool) (k : Nat) :
    (onDetail s d peers r ended k).isOver = (ended || decide (n ≤ k)) := by
  rw [isOver_eq (r := onDetail s d peers r ended k) hlimit hn]
  simp [onDetail, hr, s.isOver_viewOf]

end

end Run

namespace DetailMonitor

/-- The frames of one instance end with a cycle without a report or with the limit. -/
theorem framesOf_spec (d : DetailMonitor) (peers : Replay) {n : Nat} (hn : 1 ≤ n) :
    ∃ p, d.framesOf peers n = p + 1 ∧ p < n ∧ (∀ k < p, (d.told peers k).isReport) ∧
      (p + 1 < n → (d.told peers p).isReport = false) := by
  cases hfind : (List.range n).find? fun k => !(d.told peers k).isReport with
  | none =>
    have hnone := List.find?_range_eq_none.1 hfind
    refine ⟨n - 1, by simp only [framesOf, hfind]; omega, by omega, fun k hk => ?_,
      fun hlt => absurd hlt (by omega)⟩
    simpa using hnone k (by omega)
  | some p =>
    obtain ⟨hlast, hp, hbefore⟩ := List.find?_range_eq_some.1 hfind
    refine ⟨p, by simp only [framesOf, hfind], List.mem_range.1 hp, fun k hk => ?_, fun _ => ?_⟩
    · simpa using hbefore k hk
    · simpa using hlast

end DetailMonitor

namespace Run

variable (bars : Nat → String) (s : Settings) (d : DetailMonitor) (peers : Replay) {r : Run}
  {m n most : Nat}

/-- **One instance** is shown up to the first cycle without a report, that one included, or up to the
limit. -/
theorem play_onDetail (hr : r.failure = none) (hlimit : r.frameLimit = n) (hn : 1 ≤ n)
    (hmost : n ≤ most) (hm : m = d.framesOf peers n) :
    ∃ r', (onDetail s d peers r false 0).play bars most =
        (String.join ((List.range m).map fun k => above bars s n k ++ s.shownOf (d.told peers k)), r') ∧
      r'.completed = m ∧ r'.replay = (d.watch peers m).2 ∧
      r'.view.published = [d.rowIn peers (m - 1)] ∧ r'.failure = none := by
  obtain ⟨p, hp, hlt, hreports, hlast⟩ := d.framesOf_spec peers hn
  obtain rfl : m = p + 1 := hm.trans hp
  have hat (k : Nat) (hk : k ≤ p) :
      (next bars)^[k] (onDetail s d peers r false 0) = onDetail s d peers r false k :=
    iterate_onDetail bars s d peers hlimit fun j hj => hreports j (Nat.lt_of_lt_of_le hj hk)
  have hend : (next bars)^[p + 1] (onDetail s d peers r false 0) =
      onDetail s d peers r (!(d.told peers p).isReport) (p + 1) := by
    rw [Function.iterate_succ_apply', hat p (Nat.le_refl p),
      (next_onDetail bars s d peers hlimit false p).2, Bool.false_or]
  have hgoes (k : Nat) (hk : k < p) :
      ((next bars)^[k + 1] (onDetail s d peers r false 0)).isOver = false := by
    rw [hat (k + 1) hk, isOver_onDetail s d peers hr hlimit hn, Bool.false_or, decide_eq_false_iff_not]
    omega
  have hover : ((next bars)^[p + 1] (onDetail s d peers r false 0)).isOver := by
    rw [hend, isOver_onDetail s d peers hr hlimit hn]
    by_cases hfull : n ≤ p + 1
    · simp [hfull]
    · simp [hlast (by omega)]
  refine ⟨onDetail s d peers r (!(d.told peers p).isReport) (p + 1), ?_, rfl, rfl, ?_, hr⟩
  · rw [play_eq bars hgoes hover (by omega), hend]
    refine congrArg (fun l => (String.join l, _)) (List.map_congr_left fun k hk => ?_)
    have hle : k ≤ p := Nat.lt_succ_iff.1 (List.mem_range.1 hk)
    rw [hat k hle, (next_onDetail bars s d peers hlimit false k).1]
  · exact (s.published_viewOf _ _).trans (DetailMonitor.watch_published d peers p)

end Run

end VmMonitor
