import VmMonitor.Proofs.CommandLine.Arguments
import VmMonitor.Proofs.Program.PollLoop
import VmMonitor.Proofs.Settings.File

/-!
# Which settings prevail

A run takes each of its settings from the command line if it was given there, or else from the
configuration file if that sets it, or else it takes the standard one. No setting depends on how another
one was given. The level of the log makes an exception of one value: a level of `warn` on the command
line counts as not given, so the file prevails over it.

## What is proved

* `Settings.settings_spec` — the settings that come out of a command line and a file.
* `Program.follows_of_plan` — what a run makes of its settings.
* `Program.precedence` — both, **for every command line** and every file.
* `Program.level_given_in_vain` — a level that was given and did not prevail.
-/

namespace VmMonitor

open CommandLine

/-- What prevails of what the mentions of an option say, of what a file sets, and of a standard value. -/
inductive Prevails {α : Type} (onLine : List (Option α)) (inFile : α → Prop) (standard : Option α) :
    Option α → Prop
  /-- The option is mentioned, once and with a value. -/
  | given {x : α} : onLine = [some x] → Prevails onLine inFile standard (some x)
  /-- It is not mentioned, and the file sets a value. -/
  | filed {x : α} : onLine = [] → inFile x → Prevails onLine inFile standard (some x)
  /-- Neither says anything. -/
  | standard : onLine = [] → (∀ x, ¬inFile x) → Prevails onLine inFile standard standard

namespace Prevails

variable {α : Type} {onLine : List (Option α)} {inFile : α → Prop} {standard : Option α}
  {given filed : Option α} {x : α}

/-- What a file leaves open is still open where nothing was given. -/
theorem of_file (h : ∀ x, filed = some x ↔ inFile x) : Prevails [] inFile none filed := by
  cases filed with
  | some x => exact .filed rfl ((h x).1 rfl)
  | none => exact .standard rfl fun x hx => nomatch (h x).2 hx

theorem getD_of_file (h : ∀ x, filed = some x ↔ inFile x) (x : α) :
    Prevails [] inFile (some x) (some (filed.getD x)) := by
  cases filed with
  | some x => exact .filed rfl ((h x).1 rfl)
  | none => exact .standard rfl fun x hx => nomatch (h x).2 hx

/-- What is given prevails over anything that would prevail without it. -/
theorem orElse (h : Prevails [] inFile standard filed) (honLine : onLine = given.toList.map some) :
    Prevails onLine inFile standard (given <|> filed) := by
  subst honLine
  cases given with
  | some x => exact .given rfl
  | none => exact h

theorem getD_orElse (h : Prevails [] inFile standard (some (filed.getD x)))
    (honLine : onLine = given.toList.map some) :
    Prevails onLine inFile standard (some ((given <|> filed).getD x)) := by
  have := h.orElse honLine
  cases given <;> exact this

end Prevails

namespace Settings

open Arguments

/-- What is in effect after these mentions on the command line and with this file. -/
structure InEffect (ms : List Mention) (source : Option ConfigDoc) (s : Settings) (level : LogLevel) :
    Prop where
  delay : Prevails (readings ms "delay" (·.bind readDelay))
    (ConfigDoc.Sets source "delay_secs" fun _ => Decode.float) (some (Binary64.ofFloat 1.0)) (some s.delay)
  iterations : Prevails (readings ms "iterations" (·.bind readIterations))
    (ConfigDoc.Sets source "iterations" fun _ => Decode.int64) (some (-1)) (some s.frameLimit)
  pid : Prevails (readings ms "pid" (·.bind readNat32) ++ readings ms operandWord (·.bind readNat32))
    (ConfigDoc.Sets source "pid" fun _ => Decode.natBelow (twoTo 32)) none s.pid
  statView : Prevails (readings ms "stat" fun _ => some true)
    (ConfigDoc.Sets source "stat_view" fun _ => Decode.bool) (some false) (some s.isStatView)
  threadLimit : Prevails (readings ms "threadlimit" (·.bind readNat64))
    (ConfigDoc.Sets source "thread_limit" fun _ => Decode.natBelow (twoTo 64)) (some 30)
    (some (s.threadLimit.getD defaultThreadLimit))
  threadLimitEnabled : Prevails (readings ms "disable-threadlimit" fun _ => some false)
    (ConfigDoc.Sets source "thread_limit_enabled" fun _ => Decode.bool) (some true)
    (some (s.threadLimitEnabled.getD true))
  threadNameWidth : Prevails (readings ms "threadnamewidth" (·.bind readNat64))
    (ConfigDoc.Sets source "thread_name_width" fun _ => Decode.natBelow (twoTo 64)) (some 65)
    (some s.nameWidth)
  scanInterval : Prevails (readings ms "scan-interval" (·.bind readNat32))
    (ConfigDoc.Sets source "scan_interval" fun _ => Decode.natBelow (twoTo 32)) (some 1) (some s.interval)
  sortBy : Prevails (readings ms "sort-by" (·.bind readOrder))
    (ConfigDoc.Sets source "sort_by" SortOrder.decode) (some .cpu) (some s.order)
  scenarioFile : Prevails (readings ms "scenario" (·.bind readPath))
    (ConfigDoc.Sets source "scenario_file" fun _ => Decode.text) none s.scenarioFile
  /-- A level of `warn` counts as not given. -/
  logLevel : Prevails
    ((readings ms "log-level" (·.bind LogLevel.ofName?)).filter (· ≠ some .warn))
    (fun level => ∃ name, ConfigDoc.Sets source "log_level" (fun _ => Decode.text) name ∧
      levelOf name = level) (some .warn) (some level)

/-- The level of the log is a setting like others, but for `warn`. -/
theorem logLimit_eq {a : Arguments} (hverbose : a.verbose = false) (s : Settings) :
    a.logLimit s = (a.logLevel.filter (· ≠ .warn) <|> s.logLevel.map levelOf).getD .warn := by
  unfold logLimit
  rw [hverbose]
  cases a.logLevel with
  | none => rfl
  | some level => cases level <;> rfl

/-! ### From the standard to the command line -/

/-- What a file sets is in effect where nothing was given. -/
theorem inEffect_of_filed {source : Option ConfigDoc} {s : Settings} (h : Filed source s) :
    InEffect [] source s ((s.logLevel.map levelOf).getD .warn) := by
  constructor
  case delay => exact .getD_of_file h.delaySecs _
  case iterations => exact .getD_of_file h.iterations _
  case pid => exact .of_file h.pid
  case statView => exact .getD_of_file h.statView _
  case threadLimit => exact .getD_of_file h.threadLimit _
  case threadLimitEnabled => exact .getD_of_file h.threadLimitEnabled _
  case threadNameWidth => exact .getD_of_file h.threadNameWidth _
  case scanInterval => exact .getD_of_file h.scanInterval _
  case sortBy => exact .getD_of_file h.sortBy _
  case scenarioFile => exact .of_file h.scenarioFile
  case logLevel =>
    refine .getD_of_file (fun level => ?_) _
    rw [Option.map_eq_some_iff]
    exact exists_congr fun name => and_congr_left fun _ => h.logLevel name

/-- Without a file the standard settings are in effect. -/
theorem inEffect_standard : InEffect [] none standard ((standard.logLevel.map levelOf).getD .warn) := by
  have hnothing {α : Type} {name : String} {decode : Format → Decoder α} (x : α) :
      ¬ConfigDoc.Sets none name decode x := by simp [ConfigDoc.Sets]
  constructor
  case logLevel =>
    refine .standard rfl ?_
    rintro level ⟨name, hname, -⟩
    exact hnothing name hname
  all_goals exact .standard rfl hnothing

/-- What is given on a command line is in effect, and else what would be without it. -/
theorem inEffect_overlay {args : List String} {a : Arguments} (hargs : Arguments.read args = .ok a)
    (hverbose : a.verbose = false) {source : Option ConfigDoc} {s : Settings}
    (h : InEffect [] source s ((s.logLevel.map levelOf).getD .warn)) :
    InEffect (said args) source (a.overlay s) (a.logLimit (a.overlay s)) := by
  have hswitch (meaning isOn standard : Bool) (filed : Option Bool) :
      (if isOn then some meaning else filed).getD standard =
        (saidBySwitch meaning isOn <|> filed).getD standard := by
    cases isOn <;> rfl
  constructor
  case delay =>
    exact h.delay.getD_orElse (readings_of_read hargs (fun _ _ _ h => h.delay) rfl fun _ _ => rfl)
  case iterations =>
    exact h.iterations.getD_orElse
      (readings_of_read hargs (fun _ _ _ h => h.iterations) rfl fun _ _ => rfl)
  case pid => exact h.pid.orElse (readings_pid hargs)
  case statView =>
    rw [isStatView, overlay, hswitch]
    exact h.statView.getD_orElse (readings_of_read hargs (fun _ _ _ h => h.stat) rfl fun _ _ => rfl)
  case threadLimit =>
    exact h.threadLimit.getD_orElse
      (readings_of_read hargs (fun _ _ _ h => h.threadLimit) rfl fun _ _ => rfl)
  case threadLimitEnabled =>
    rw [overlay, hswitch]
    exact h.threadLimitEnabled.getD_orElse
      (readings_of_read hargs (fun _ _ _ h => h.disableThreadLimit) rfl fun _ _ => rfl)
  case threadNameWidth =>
    exact h.threadNameWidth.getD_orElse
      (readings_of_read hargs (fun _ _ _ h => h.threadNameWidth) rfl fun _ _ => rfl)
  case scanInterval =>
    exact h.scanInterval.getD_orElse
      (readings_of_read hargs (fun _ _ _ h => h.scanInterval) rfl fun _ _ => rfl)
  case sortBy =>
    exact h.sortBy.getD_orElse (readings_of_read hargs (fun _ _ _ h => h.sortBy) rfl fun _ _ => rfl)
  case scenarioFile =>
    exact h.scenarioFile.orElse (readings_of_read hargs (fun _ _ _ h => h.scenario) rfl fun _ _ => rfl)
  case logLevel =>
    have hlevels := congrArg (List.filter (· ≠ some .warn))
      (readings_of_read hargs (fun _ _ _ h => h.logLevel) rfl fun _ _ => rfl)
    rw [logLimit_eq hverbose]
    refine h.logLevel.getD_orElse (hlevels.trans ?_)
    cases a.logLevel with
    | none => rfl
    | some level => cases level <;> rfl

/-! ### Files -/

/-- The file that a command line has consulted. -/
def configFile? (files : Files) (ms : List Mention) : Option String :=
  if (readings ms "no-config" fun _ => some true).isEmpty then
    consulted? files (readings ms "config" (·.bind readPath)).head?.join
  else none

/-- **The settings** of a command line are those in effect with the file that it has consulted, and
there are none only if that file cannot be read as settings. -/
theorem settings_spec {files : Files} {args : List String} {a : Arguments}
    (hargs : Arguments.read args = .ok a) (hverbose : a.verbose = false) : match a.settings files with
    | .ok s => ∃ source, ReadAs files (configFile? files (said args)) source ∧
        InEffect (said args) source s (a.logLimit s)
    | .error _ => IsUnreadable files (configFile? files (said args)) := by
  have hnoConfig := readings_of_read hargs (fun _ _ _ h => h.noConfig) rfl fun _ _ => rfl
  have hconfig := readings_of_read hargs (fun _ _ _ h => h.config) rfl fun _ _ => rfl
  have hpath : configFile? files (said args) =
      if a.noConfig then none else consulted? files a.config := by
    rw [configFile?, hnoConfig, hconfig]
    cases a.noConfig <;> cases a.config <;> rfl
  rw [hpath]
  cases hno : a.noConfig with
  | true =>
    simp only [Arguments.settings, hno]
    exact ⟨none, rfl, inEffect_overlay hargs hverbose inEffect_standard⟩
  | false =>
    have hload := load_spec files a.config
    simp only [Arguments.settings, hno]
    cases hbase : load files a.config with
    | error fault =>
      rw [hbase] at hload
      exact hload
    | ok base =>
      rw [hbase] at hload
      obtain ⟨source, hread, hsource⟩ := hload
      refine ⟨source, hread, inEffect_overlay hargs hverbose ?_⟩
      cases source with
      | none =>
        obtain rfl : base = standard := hsource
        exact inEffect_standard
      | some f => exact inEffect_of_filed (filed_of_decode hsource)

end Settings

namespace Program

open Arguments (said)
open Settings (configFile?)

/-- A run does what its settings say. -/
structure Follows (files : Files) (s : Settings) (level : LogLevel) (r : Run) : Prop where
  delay : r.delay = s.delay
  frameLimit : r.frameLimit = s.frameLimit
  logLimit : r.logLimit = level
  view : ∃ path sc, s.scenarioFile = some path ∧ Scenario.load files path = .ok sc ∧
    match s.pid with
    | none => r.view = .overview (Monitor.new s.order s.interval) ∧ r.replay = Replay.new sc
    | some pid => ∃ m, opened s sc pid = (.ok m, r.replay) ∧ r.view = s.viewOf m false

variable {files : Files} {args : List String} {a : Arguments} {s : Settings} {r : Run}

theorem load_of_scenario {sc : Scenario} {path : String} (h : scenario files s = .ok (sc, path)) :
    s.scenarioFile = some path ∧ Scenario.load files path = .ok sc := by
  unfold scenario at h
  cases hpath : s.scenarioFile with
  | none => simp [hpath] at h
  | some path' =>
    simp only [hpath] at h
    cases hload : Scenario.load files path' with
    | error e => simp [hload] at h
    | ok sc' =>
      rw [hload] at h
      cases h
      exact ⟨rfl, hload⟩

theorem follows_of_start (h : start files a s = .ok r) : Follows files s (a.logLimit s) r := by
  unfold start at h
  rcases hscenario : scenario files s with e | ⟨sc, path⟩
  · simp only [hscenario] at h
    cases h
  rcases hview : view s (Replay.new sc) with ⟨e | ⟨v, message⟩, peers⟩
  · simp only [hscenario, hview] at h
    cases h
  simp only [hscenario, hview] at h
  cases h
  obtain ⟨hpath, hload⟩ := load_of_scenario hscenario
  refine ⟨rfl, rfl, rfl, path, sc, hpath, hload, ?_⟩
  cases hpid : s.pid with
  | none =>
    obtain ⟨_, hoverview⟩ := view_of_no_pid sc hpid
    rw [hview] at hoverview
    cases hoverview
    exact ⟨rfl, rfl⟩
  | some pid =>
    rcases hopened : opened s sc pid with ⟨e | m, peers'⟩
    · rw [view_of_not_opened hpid hopened] at hview
      cases hview
    · obtain ⟨_, hdetail⟩ := view_of_opened hpid hopened
      rw [hview] at hdetail
      cases hdetail
      exact ⟨m, hopened, rfl⟩

theorem settings_of_validSettings (h : validSettings files a = .ok s) : a.settings files = .ok s := by
  obtain ⟨s', hs, h⟩ := bind_eq_ok.1 h
  split at h
  · cases h
  · cases h
    cases hsettings : a.settings files with
    | ok _ =>
      simp only [settings, hsettings] at hs
      cases hs
      rfl
    | error fault =>
      simp only [settings, hsettings] at hs
      cases hs

/-- A run that is planned follows the settings of its arguments. -/
theorem follows_of_plan (hargs : Arguments.read args = .ok a) (hplan : plan files args = .monitor r) :
    ∃ s, a.settings files = .ok s ∧ Follows files s (a.logLimit s) r := by
  have hplanned : planned files a = .ok (.monitor r) := by
    rw [plan, hargs] at hplan
    cases h : planned files a with
    | ok p =>
      simp only [h] at hplan
      exact congrArg Except.ok hplan
    | error o =>
      simp only [h] at hplan
      cases hplan
  unfold planned at hplanned
  split_ifs at hplanned
  · obtain ⟨_, _, h⟩ := bind_eq_ok.1 hplanned
    cases h
  · obtain ⟨_, _, h⟩ := bind_eq_ok.1 hplanned
    cases h
  · split at hplanned
    · cases hplanned
    · cases hplanned
    · obtain ⟨s, hvalid, h⟩ := bind_eq_ok.1 hplanned
      obtain ⟨r', hstart, h⟩ := bind_eq_ok.1 h
      cases h
      exact ⟨s, settings_of_validSettings hvalid, follows_of_start hstart⟩

/-- **Which settings prevail.** Take any arguments that are read, and that do not ask for all to be
logged, and any files. Each setting is what the mentions of its own option say, of which there is one at
most, or else what the document of the consulted file holds for it, or else the standard value; only the
level `warn` is not taken from the command line. There are no settings only if that file cannot be read
as settings. A run that is planned has just these settings. -/
theorem precedence (hargs : Arguments.read args = .ok a)
    (hquiet : ∀ m ∈ said args, m.word ≠ "verbose") :
    (match a.settings files with
      | .ok s => ∃ source, Settings.ReadAs files (configFile? files (said args)) source ∧
          Settings.InEffect (said args) source s (a.logLimit s)
      | .error _ => Settings.IsUnreadable files (configFile? files (said args))) ∧
    ∀ r, plan files args = .monitor r →
      ∃ s, a.settings files = .ok s ∧ Follows files s (a.logLimit s) r := by
  have hsaid := Arguments.readings_of_read hargs (fun _ _ _ h => h.verbose) rfl fun _ _ => rfl
  have hnone : (said args).filter (fun m => m.word = "verbose") = [] := by
    simpa [List.filter_eq_nil_iff] using hquiet
  have hverbose : a.verbose = false := by
    cases h : a.verbose with
    | false => rfl
    | true => simp [readings, hnone, h, Arguments.saidBySwitch] at hsaid
  exact ⟨Settings.settings_spec hargs hverbose, fun r => follows_of_plan hargs⟩

/-- A configuration file that sets four settings, and the scenario that it names. -/
def fourSettings : Files := Files.directory [
  ("c.yaml", "iterations: 5\nsort-by: heap\nscenario: s.yaml\nlog_level: Info\n"),
  ("s.yaml", "instances: []\n")]

/-- Arguments that give one setting, and name the file. -/
def oneFrame : Arguments := { config := some "c.yaml", iterations := some 1 }

def oneFrameSettings : Settings where
  iterations := some 1
  sortBy := some .heap
  scenarioFile := some "s.yaml"
  logLevel := some "Info"

/-- The number of frames is that of the command line, the order and the level of the log are those of
the file, and the interval is the standard one. -/
theorem precedence_of_three_layers :
    let args := ["-c", "c.yaml", "--iteration=1"]
    Arguments.read args = .ok oneFrame ∧ (∀ m ∈ said args, m.word ≠ "verbose") ∧
      oneFrame.settings fourSettings = .ok oneFrameSettings ∧
      ∃ source, Settings.ReadAs fourSettings (some "c.yaml") source ∧
        Settings.InEffect (said args) source oneFrameSettings .info ∧
        oneFrameSettings.frameLimit = 1 ∧ oneFrameSettings.order = .heap ∧
        oneFrameSettings.interval = 1 := by
  intro args
  have hargs : Arguments.read args = .ok oneFrame := by decide +kernel
  have hquiet : ∀ m ∈ said args, m.word ≠ "verbose" := by decide +kernel
  have hs : oneFrame.settings fourSettings = .ok oneFrameSettings := by decide +kernel
  have hpath : configFile? fourSettings (said args) = some "c.yaml" := by decide +kernel
  have hspec := @precedence fourSettings args oneFrame hargs hquiet
  rw [hs, hpath] at hspec
  obtain ⟨⟨source, hread, heffect⟩, -⟩ := hspec
  have hlevel : oneFrame.logLimit oneFrameSettings = .info := by decide +kernel
  rw [hlevel] at heffect
  exact ⟨hargs, hquiet, hs, source, hread, heffect, rfl, rfl, rfl⟩

/-- The same arguments with a level of the log. -/
def warned : Arguments := { oneFrame with logLevel := some .warn }

/-- **A level that is given in vain**: the command line asks for `warn`, and the run has the level of
the file. -/
theorem level_given_in_vain : ∃ (files : Files) (args : List String) (a : Arguments) (r : Run),
    Arguments.read args = .ok a ∧ (∀ m ∈ said args, m.word ≠ "verbose") ∧
    readings (said args) "log-level" (·.bind LogLevel.ofName?) = [some .warn] ∧
    plan files args = .monitor r ∧ r.logLimit = .info := by
  have hargs : Arguments.read ["-c", "c.yaml", "--iteration=1", "--log-level", "warn"] = .ok warned := by
    decide +kernel
  have hs : warned.settings fourSettings = .ok oneFrameSettings := by decide +kernel
  have hvalid : oneFrameSettings.fault? fourSettings.isThere = none := by decide +kernel
  have hload : Scenario.load fourSettings "s.yaml" = .ok ⟨none, []⟩ := by decide +kernel
  obtain ⟨_, hview⟩ := view_of_no_pid (s := oneFrameSettings) ⟨none, []⟩ rfl
  obtain ⟨r, hstart, -⟩ := start_of_view warned (scenario_of_load rfl hload) hview
  have hplan := plan_of_valid hargs rfl rfl rfl hs hvalid
  rw [hstart] at hplan
  refine ⟨_, _, warned, r, hargs, by decide +kernel, by decide +kernel, hplan, ?_⟩
  rw [(follows_of_start hstart).logLimit]
  decide +kernel

end Program

end VmMonitor
