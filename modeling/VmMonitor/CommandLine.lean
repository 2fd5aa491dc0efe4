import VmMonitor.CommandLine.Grammar
import VmMonitor.Settings.File

/-!
# Arguments of the program

The options of the monitor and of its commands. What is given here takes precedence over the
configuration file.
-/

namespace VmMonitor

/-- A command in place of monitoring. -/
inductive Command
  | generate (output : String) (instances samples threads : Nat)
  | hostInfo
  deriving DecidableEq, Repr

/-- The arguments of the program, as far as they were given. -/
structure Arguments where
  /-- The instance as an operand. -/
  pidOperand : Option Nat := none
  /-- The instance as an option. -/
  pidOption : Option Nat := none
  delay : Option Binary64 := none
  iterations : Option Int := none
  stat : Bool := false
  threadLimit : Option Nat := none
  disableThreadLimit : Bool := false
  threadNameWidth : Option Nat := none
  scanInterval : Option Nat := none
  sortBy : Option SortOrder := none
  scenario : Option String := none
  logLevel : Option LogLevel := none
  verbose : Bool := false
  config : Option String := none
  noConfig : Bool := false
  showConfig : Bool := false
  configFormat : Option Format := none
  checkConfig : Bool := false
  command : Option Command := none
  deriving DecidableEq

namespace Arguments

open CommandLine

/-! ### Values -/

/-- Reads a value that may be malformed. -/
def taking {α β : Type} (read : String → Option β) (fault : UsageFault) (set : β → α → α) :
    Taking α := fun s a =>
    match read s with
    | some b => .ok (set b a)
    | none => .error fault

/-- A whole number from `low` to `high`. -/
def readBetween (low high : Int) (s : String) : Option Int := do
  let n ← readInt? 10 s.toList
  if low ≤ n ∧ n ≤ high then some n else none

/-- A process id or an interval. -/
def readNat32 (s : String) : Option Nat := (readBetween 0 ((twoTo 32 : Int) - 1) s).map Int.toNat

/-- A count. -/
def readNat64 (s : String) : Option Nat := do
  let n ← readNat? 10 s.toList
  if n < twoTo 64 then some n else none

/-- A path names something. -/
def readPath (s : String) : Option String := if s.isEmpty then none else some s

def readFormat (s : String) : Option Format :=
  [Format.yaml, .json, .toml].find? fun f => f.name = s

def readOrder (s : String) : Option SortOrder :=
  [SortOrder.cpu, .heap].find? fun o => o.name = s

/-! ### Options -/

def options : List (Opt Arguments) :=
  let number {β : Type} (read : String → Option β) (set : β → Arguments → Arguments) :=
    Effect.value (taking read .valueValidation set)
  let choice {β : Type} (read : String → Option β) (set : β → Arguments → Arguments) :=
    Effect.value (taking read .invalidValue set)
  [{ word := "pid", letter := some 'p',
      effect := number readNat32 fun n a => { a with pidOption := some n } },
    { word := "delay", letter := some 'd',
      effect := number (fun s => (readFloat s).toOption) fun x a =>
        { a with delay := some (Binary64.ofFloat x) } },
    { word := "iterations", otherWord := some "iteration", letter := some 'n',
      effect := number (readBetween (-(twoTo 63 : Int)) ((twoTo 63 : Int) - 1)) fun n a =>
        { a with iterations := some n } },
    { word := "stat", effect := .switch fun a => { a with stat := true } },
    { word := "threadlimit",
      effect := number readNat64 fun n a => { a with threadLimit := some n } },
    { word := "disable-threadlimit",
      effect := .switch fun a => { a with disableThreadLimit := true } },
    { word := "threadnamewidth",
      effect := number readNat64 fun n a => { a with threadNameWidth := some n } },
    { word := "scan-interval",
      effect := number readNat32 fun n a => { a with scanInterval := some n } },
    { word := "sort-by", effect := choice readOrder fun o a => { a with sortBy := some o } },
    { word := "scenario", letter := some 's',
      effect := choice readPath fun p a => { a with scenario := some p } },
    { word := "log-level",
      effect := choice LogLevel.ofName? fun l a => { a with logLevel := some l } },
    { word := "verbose", effect := .switch fun a => { a with verbose := true } },
    { word := "config", letter := some 'c',
      effect := choice readPath fun p a => { a with config := some p } },
    { word := "no-config", effect := .switch fun a => { a with noConfig := true } },
    { word := "show-config", effect := .switch fun a => { a with showConfig := true } },
    { word := "config-format",
      effect := choice readFormat fun f a => { a with configFormat := some f } },
    { word := "check-config", effect := .switch fun a => { a with checkConfig := true } }]

def grammar : Grammar Arguments where
  options := options
  operand := some (taking readNat32 .valueValidation fun n a => { a with pidOperand := some n })
  commands := ["generate-scenario", "sysinfo"]

/-! ### Commands -/

/-- The arguments of the command that writes a scenario. -/
structure Generation where
  output : String := "scenario.yaml"
  instances : Nat := 5
  samples : Nat := 30
  threads : Nat := 12

def generationGrammar : Grammar Generation where
  command := some "generate-scenario"
  options :=
    let count (set : Nat → Generation → Generation) :=
      Effect.value (taking readNat64 .valueValidation set)
    [{ word := "output", letter := some 'o',
        effect := .value (taking readPath .invalidValue fun p g => { g with output := p }) },
      { word := "instances", effect := count fun n g => { g with instances := n } },
      { word := "samples", effect := count fun n g => { g with samples := n } },
      { word := "threads", effect := count fun n g => { g with threads := n } }]

def hostInfoGrammar : Grammar Unit where
  command := some "sysinfo"
  options := []

/-- Reads all arguments of a command without commands of its own. -/
def readAll {α : Type} (g : Grammar α) (start : α) (args : List String) : Except UsageFault α := do
  let (p, _) ← walk g args { result := start }
  return (← p.settle).result

/-- Reads a command. -/
def readCommand (name : String) (args : List String) : Except UsageFault Command :=
  if name = "sysinfo" then do
    readAll hostInfoGrammar () args
    return .hostInfo
  else do
    let g ← readAll generationGrammar {} args
    return .generate g.output g.instances g.samples g.threads

/-- Reads the arguments of the program. The instance is given in one way only. -/
def read (args : List String) : Except UsageFault Arguments := do
  let (p, rest) ← walk grammar args { result := {} }
  let command ← match rest with
    | none => pure none
    | some (name, args) => some <$> readCommand name args
  let a := (← p.settle).result
  if a.pidOperand.isSome && a.pidOption.isSome then throw .argumentConflict
  return { a with command }

/-! ### Precedence -/

/-- The instance to show. -/
def pid (a : Arguments) : Option Nat := a.pidOption <|> a.pidOperand

/-- Settings with what was given here in their place. -/
def overlay (a : Arguments) (s : Settings) : Settings where
  delaySecs := a.delay <|> s.delaySecs
  iterations := a.iterations <|> s.iterations
  pid := a.pid <|> s.pid
  statView := if a.stat then some true else s.statView
  threadLimit := a.threadLimit <|> s.threadLimit
  threadLimitEnabled := if a.disableThreadLimit then some false else s.threadLimitEnabled
  threadNameWidth := a.threadNameWidth <|> s.threadNameWidth
  scanInterval := a.scanInterval <|> s.scanInterval
  sortBy := a.sortBy <|> s.sortBy
  scenarioFile := a.scenario <|> s.scenarioFile
  logLevel := s.logLevel

/-- The settings of a run. -/
def settings (files : Files) (a : Arguments) : Except Settings.FileFault Settings := do
  let base ← if a.noConfig then pure Settings.standard else Settings.load files a.config
  return a.overlay base

/-- The level of the log. A level of `warn` leaves the choice to the configuration file. -/
def logLimit (a : Arguments) (s : Settings) : LogLevel :=
  if a.verbose then .debug
  else match a.logLevel.getD .warn with
    | .warn => (s.logLevel.map Settings.levelOf).getD .warn
    | level => level

end Arguments

end VmMonitor
