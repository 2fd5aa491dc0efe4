import VmMonitor.Proofs.Program.Frames

/-!
# What a run shows and how it exits

From the arguments to the output. Arguments that ask for neither the settings nor a command, with
settings that can be used and a scenario that loads, are planned as a run from the first frame on;
the frames of the view, the last reading and the exit code then follow from the loop.

A run ends by its limit, by its view or by a listing that fails. A listing that fails before the first
frame of one instance leaves no run at all.

## What is proved

* `Run.ends_onWatch`, `Run.ends_onDetail` — the output and the exit code of a run of either view.
* `Program.poll_loop` — **the program**, from its settings and its scenario.
-/

namespace VmMonitor

namespace Run

/-- What is said at the end of a run whose last cycle published these rows. -/
def farewell (rows : List InstanceRow) : String :=
  "Finish execution ... " ++ (if rows.isEmpty then "" else "\n" ++ Overview.frame rows) ++ "done!\n"

/-- How a run ends: with these frames and the rows of its last cycle once more, as a failure or not,
and with nothing asked of the peers after that. -/
structure Ends (bars : Nat → String) (most : Nat) (r : Run) (frames : List String)
    (last : List InstanceRow) (failed : Prop) (peers : Replay) : Prop where
  output : (r.finish bars most).output = String.join frames ++ farewell last
  code : (r.finish bars most).code ≠ 0 ↔ failed
  completed : (r.play bars most).2.completed = frames.length
  replay : (r.play bars most).2.replay = peers

theorem ends_of_play {bars : Nat → String} {most : Nat} {r r' : Run} {frames : List String}
    (h : r.play bars most = (String.join frames, r')) (hcompleted : r'.completed = frames.length) :
    r.Ends bars most frames r'.view.published r'.failure.isSome r'.replay where
  output := by
    rw [finish_of_play h, outcome_output, close_text, String.append_assoc]
    rfl
  code := by
    rw [finish_of_play h, outcome_code, close_failure]
    cases r'.failure <;> simp
  completed := by rw [h, hcompleted]
  replay := by rw [h]

end Run

namespace Replay

/-- Before a cycle, the rows of the cycle before it are published, and none before the first. -/
theorem watch_published {order : SortOrder} {interval m : Nat} {s : Scenario}
    {rows : Nat → List InstanceRow} (h : ∀ k < m, shown order interval s k = .ok (rows k)) :
    (watch order interval s m).1.published = if m = 0 then [] else rows (m - 1) := by
  cases m with
  | zero => rfl
  | succ m =>
    rcases hc : (watch order interval s m).1.cycle transport directory (watch order interval s m).2
      with ⟨result, m', r'⟩
    obtain rfl : result = .ok (rows m) := (congrArg Prod.fst hc).symm.trans (h m (Nat.lt_succ_self m))
    rw [watch_succ, hc]
    exact Monitor.cycle_published_of_ok hc

end Replay

namespace Run

variable (bars : Nat → String) {r : Run} {n most : Nat}

/-- **The overview** ends with the rows of the last cycle that had its listing, or needed none. -/
theorem ends_onWatch (order : SortOrder) (interval : Nat) (s : Scenario) (hr : r.failure = none)
    (hlimit : r.frameLimit = n) (hn : 1 ≤ n) (hmost : n ≤ most) :
    let m := framesOf s interval n
    ∃ rows : Nat → List InstanceRow, (∀ k < m, Replay.shown order interval s k = .ok (rows k)) ∧
      (onWatch order interval s r 0).Ends bars most
        ((List.range m).map fun k => clearing n ++ bars k ++ Overview.frame (rows k))
        (if m = 0 then [] else rows (m - 1)) (∃ k < n, s.scanFails interval k)
        (Replay.watch order interval s m).2 := by
  intro m
  obtain ⟨rows, hrows, r', hplay, hcompleted, hreplay, hpublished, hfailed⟩ :=
    play_onWatch bars order interval s hr hlimit hn hmost (Eq.refl m)
  have hends := ends_of_play hplay (by simpa using hcompleted)
  rw [hpublished, Replay.watch_published hrows, hreplay, hfailed, framesOf_lt_iff] at hends
  exact ⟨rows, hrows, hends⟩

/-- **One instance** ends with its row of the last cycle, and never as a failure. -/
theorem ends_onDetail (s : Settings) (d : DetailMonitor) (peers : Replay) (hr : r.failure = none)
    (hlimit : r.frameLimit = n) (hn : 1 ≤ n) (hmost : n ≤ most) :
    let m := d.framesOf peers n
    (onDetail s d peers r false 0).Ends bars most
      ((List.range m).map fun k => above bars s n k ++ s.shownOf (d.told peers k))
      [d.rowIn peers (m - 1)] False (d.watch peers m).2 := by
  intro m
  obtain ⟨r', hplay, hcompleted, hreplay, hpublished, hfailure⟩ :=
    play_onDetail bars s d peers hr hlimit hn hmost (Eq.refl m)
  have hends := ends_of_play hplay (by simpa using hcompleted)
  rw [hpublished, hreplay, hfailure] at hends
  simpa using hends

end Run

/-- Looking an instance up fails only where the listing does. -/
theorem DetailMonitor.open_isOk {ω : Type} (t : Transport ω) (directory : Directory ω)
    (id : InstanceId) (limit : Option Nat) (withThreads : Bool) (w : ω) :
    (DetailMonitor.open t directory id limit withThreads w).1.isOk = (directory.list w).1.isOk := by
  rcases hlist : directory.list w with ⟨e | visible, w'⟩
  · simp only [DetailMonitor.open, hlist]
    rfl
  · simp only [DetailMonitor.open, hlist]
    rfl

namespace Program

variable {files : Files} {args : List String} {a : Arguments} {s : Settings} {sc : Scenario}
  {path : String}

/-- Arguments that ask for neither the settings nor a command are planned as a run. -/
theorem plan_of_valid (hargs : Arguments.read args = .ok a) (hcheck : a.checkConfig = false)
    (hshow : a.showConfig = false) (hcommand : a.command = none) (hs : a.settings files = .ok s)
    (hvalid : s.fault? files.isThere = none) :
    plan files args = match start files a s with
      | .ok r => .monitor r
      | .error o => .stop o := by
  have hsettings : validSettings files a = .ok s := by
    simp [validSettings, settings, hs, hvalid, bind, Except.bind, pure, Except.pure]
  have hplanned : planned files a = (do return .monitor (← start files a s)) := by
    simp only [planned, hcheck, hshow, hcommand, hsettings]
    rfl
  rw [plan, hargs]
  simp only [hplanned]
  cases start files a s <;> rfl

theorem scenario_of_load (hpath : s.scenarioFile = some path) (hload : Scenario.load files path = .ok sc) :
    scenario files s = .ok (sc, path) := by
  simp only [scenario, hpath, hload]

/-- A run starts with its view, before its first frame. -/
theorem start_of_view (a : Arguments) (hscenario : scenario files s = .ok (sc, path)) {v : View}
    {message : String} {peers : Replay} (hview : view s (Replay.new sc) = (.ok (v, message), peers)) :
    ∃ r, start files a s = .ok r ∧ r.failure = none ∧ r.frameLimit = s.frameLimit ∧
      r = { r with view := v, replay := peers, completed := 0 } := by
  rcases hstart : start files a s with o | r
  · simp [start, hscenario, hview] at hstart
  · simp only [start, hscenario, hview, Except.ok.injEq] at hstart
    subst hstart
    exact ⟨_, rfl, rfl, rfl, rfl⟩

/-- Without a view there is no run. -/
theorem start_of_no_view (a : Arguments) (hscenario : scenario files s = .ok (sc, path))
    {e : MonitorError} {peers : Replay} (hview : view s (Replay.new sc) = (.error e, peers)) :
    ∃ o, start files a s = .error o ∧ o.output = "" ∧ o.code ≠ 0 := by
  simp only [start, hscenario, hview]
  exact ⟨_, rfl, rfl, Nat.one_ne_zero⟩

theorem view_of_no_pid (sc : Scenario) (hpid : s.pid = none) :
    ∃ message, view s (Replay.new sc) =
      (.ok (.overview (Monitor.new s.order s.interval), message), Replay.new sc) := by
  simp only [view, hpid]
  exact ⟨_, rfl⟩

/-- How one instance is looked up for a run. -/
def opened (s : Settings) (sc : Scenario) (pid : Nat) : Except MonitorError DetailMonitor × Replay :=
  DetailMonitor.open Replay.transport Replay.directory pid s.shownThreads (!s.isStatView)
    (Replay.new sc)

theorem view_of_opened {pid : Nat} (hpid : s.pid = some pid) {d : DetailMonitor} {peers : Replay}
    (hopened : opened s sc pid = (.ok d, peers)) :
    ∃ message, view s (Replay.new sc) = (.ok (s.viewOf d false, message), peers) := by
  rw [opened] at hopened
  simp only [view, hpid, hopened]
  cases hstat : s.isStatView <;> simp [Settings.viewOf, hstat]

theorem view_of_not_opened {pid : Nat} (hpid : s.pid = some pid) {e : MonitorError} {peers : Replay}
    (hopened : opened s sc pid = (.error e, peers)) :
    view s (Replay.new sc) = (.error e, peers) := by
  rw [opened] at hopened
  simp only [view, hpid, hopened]

/-- One instance can be looked up unless no listing can be had from the start. -/
theorem opened_isOk (s : Settings) (sc : Scenario) (pid : Nat) :
    (opened s sc pid).1.isOk = !sc.discoveryFailsAt.any (· ≤ 0) := by
  rw [opened, DetailMonitor.open_isOk]
  change (Replay.new sc).list.isOk = _
  simp only [Replay.list, Replay.new]
  split_ifs <;> simp_all [Except.isOk, Except.toBool]

/-- **The program** shows the rows of every cycle, up to the limit or the first listing that is due and
fails, which alone makes the run a failure. Of one instance it shows every cycle up to the limit or to
the first one without a report, that one included, unless the instance cannot be looked up. The rows of
the last cycle end the output, and nothing is asked of the peers after that cycle. -/
theorem poll_loop {n most : Nat} (hargs : Arguments.read args = .ok a)
    (hcheck : a.checkConfig = false) (hshow : a.showConfig = false) (hcommand : a.command = none)
    (hs : a.settings files = .ok s) (hvalid : s.fault? files.isThere = none)
    (hpath : s.scenarioFile = some path) (hload : Scenario.load files path = .ok sc)
    (hlimit : s.frameLimit = n) (hn : 1 ≤ n) (hmost : n ≤ most) (bars : Nat → String) :
    match s.pid with
    | none =>
      let m := Run.framesOf sc s.interval n
      ∃ (r : Run) (rows : Nat → List InstanceRow), plan files args = .monitor r ∧
        (∀ k < m, Replay.shown s.order s.interval sc k = .ok (rows k)) ∧
        r.Ends bars most
          ((List.range m).map fun k => Run.clearing n ++ bars k ++ Overview.frame (rows k))
          (if m = 0 then [] else rows (m - 1)) (∃ k < n, sc.scanFails s.interval k)
          (Replay.watch s.order s.interval sc m).2
    | some pid =>
      if sc.discoveryFailsAt.any (· ≤ 0) then
        ∃ o, plan files args = .stop o ∧ o.output = "" ∧ o.code ≠ 0
      else
        ∃ r d peers, opened s sc pid = (.ok d, peers) ∧ plan files args = .monitor r ∧
          let m := d.framesOf peers n
          r.Ends bars most
            ((List.range m).map fun k => Run.above bars s n k ++ s.shownOf (d.told peers k))
            [d.rowIn peers (m - 1)] False (d.watch peers m).2 := by
  have hplan := plan_of_valid hargs hcheck hshow hcommand hs hvalid
  have hscenario := scenario_of_load hpath hload
  split
  next hpid =>
    intro m
    obtain ⟨message, hview⟩ := view_of_no_pid sc hpid
    obtain ⟨r, hstart, hr, hframes, hfirst⟩ := start_of_view a hscenario hview
    obtain ⟨rows, hrows, hends⟩ := Run.ends_onWatch bars s.order s.interval sc hr
      (hframes.trans hlimit) hn hmost
    rw [hstart] at hplan
    exact ⟨r, rows, hplan, hrows, hfirst ▸ hends⟩
  next pid hpid =>
    have hok := opened_isOk s sc pid
    rcases hopened : opened s sc pid with ⟨e | d, peers⟩
    · obtain ⟨o, hstart, hnothing, hcode⟩ :=
        start_of_no_view a hscenario (view_of_not_opened hpid hopened)
      rw [hstart] at hplan
      rw [if_pos (by simpa [hopened, Except.isOk, Except.toBool] using hok)]
      exact ⟨o, hplan, hnothing, hcode⟩
    · obtain ⟨message, hview⟩ := view_of_opened hpid hopened
      obtain ⟨r, hstart, hr, hframes, hfirst⟩ := start_of_view a hscenario hview
      have hends := Run.ends_onDetail bars s d peers hr (hframes.trans hlimit) hn hmost
      rw [hstart] at hplan
      rw [if_neg (by simpa [hopened, Except.isOk, Except.toBool] using hok)]
      exact ⟨r, d, peers, rfl, hplan, hfirst ▸ hends⟩

/-- A scenario of two instances whose listing fails from the third cycle on. -/
def failingPair : Scenario where
  discoveryFailsAt := some 2
  instances := [{ pid := 7, samples := [{ uptimeMs := 1000 }] }, { pid := 8, connect := .refused }]

def failingPairFiles : Files := Files.directory [("pair.yaml",
  "discovery_fails_at: 2\n" ++
  "instances:\n" ++
  "- pid: 7\n" ++
  "  samples:\n" ++
  "  - uptime_ms: 1000\n" ++
  "- pid: 8\n" ++
  "  connect: refused\n")]

def threeFrames : Arguments := { noConfig := true, scenario := some "pair.yaml", iterations := some 3 }

def threeFramesSettings : Settings :=
  { Settings.standard with scenarioFile := some "pair.yaml", iterations := some 3 }

/-- Of three frames asked for, two are shown, and the run is a failure. -/
theorem poll_loop_of_failing_listing :
    let args := ["--no-config", "--scenario", "pair.yaml", "-n", "3"]
    let bar := fun _ : Nat => "top\n"
    Arguments.read args = .ok threeFrames ∧
      threeFrames.settings failingPairFiles = .ok threeFramesSettings ∧
      threeFramesSettings.fault? failingPairFiles.isThere = none ∧
      Scenario.load failingPairFiles "pair.yaml" = .ok failingPair ∧
      ∃ (r : Run) (first second : List InstanceRow), plan failingPairFiles args = .monitor r ∧
        Replay.shown .cpu 1 failingPair 0 = .ok first ∧ Replay.shown .cpu 1 failingPair 1 = .ok second ∧
        (r.finish bar 3).output = Run.clearScreen ++ "top\n" ++ Overview.frame first ++
          (Run.clearScreen ++ "top\n" ++ Overview.frame second) ++ Run.farewell second ∧
        (r.finish bar 3).code ≠ 0 := by
  intro args bar
  have hargs : Arguments.read args = .ok threeFrames := by decide +kernel
  have hs : threeFrames.settings failingPairFiles = .ok threeFramesSettings := by decide +kernel
  have hvalid : threeFramesSettings.fault? failingPairFiles.isThere = none := by decide +kernel
  have hload : Scenario.load failingPairFiles "pair.yaml" = .ok failingPair := by decide +kernel
  obtain ⟨r, rows, hplan, hrows, hends⟩ :=
    poll_loop (n := 3) hargs rfl rfl rfl hs hvalid rfl hload rfl (by decide) (Nat.le_refl 3) bar
  have hm : Run.framesOf failingPair threeFramesSettings.interval 3 = 2 := by decide
  rw [hm] at hrows hends
  refine ⟨hargs, hs, hvalid, hload, r, rows 0, rows 1, hplan, hrows 0 (by decide), hrows 1 (by decide),
    ?_, hends.code.2 ⟨2, by decide, by decide⟩⟩
  exact hends.output

end Program

end VmMonitor
