import VmMonitor.Host.LoadAverage
import VmMonitor.Number.FixedPlaces
import VmMonitor.Text.Align

/-!
# The machine

What is known of the machine that the monitor runs on: its processors always, its kernel, load and
uptime where the system tells them. It is shown on the line above a frame and as a report of its
own.
-/

namespace VmMonitor

/-- The kernel of a machine. -/
structure Kernel where
  name : String
  release : String
  architecture : String

/-- A machine as the system describes it. -/
structure Machine where
  processors : Nat
  kernel : Option Kernel := none
  load : Option LoadAverage := none
  uptimeSeconds : Option Float := none

namespace Machine

/-- A number with so many places. -/
def decimal (places : Nat) (x : Float) : String := (Binary64.ofFloat x).fixed places

/-- The line above a frame that is shown at a time of day. -/
def topBar (version clock : String) (m : Machine) : String :=
  let (architecture, system) := match m.kernel with
    | some k => (k.architecture, k.name ++ " " ++ k.release)
    | none => ("", "")
  let load := match m.load with
    | some l => ", load avg " ++ decimal 2 l.oneMinute
    | none => ""
  " JvmTop " ++ version ++ " - " ++ clock ++ ", " ++ padLeft 6 architecture ++ ", "
    ++ padLeft 2 (toString m.processors) ++ " cpus, " ++ padRight 15 (leftmost 15 system) ++ load
    ++ "\n"

/-- The report on a machine. -/
def report (m : Machine) : String :=
  let kernel := match m.kernel with
    | some k => k.name ++ " " ++ k.release ++ " (" ++ k.architecture ++ ")"
    | none => "unknown"
  let load := match m.load with
    | some l => " ".intercalate ([l.oneMinute, l.fiveMinutes, l.fifteenMinutes].map (decimal 2))
    | none => "unavailable"
  let uptime := match m.uptimeSeconds with
    | some s => "Uptime:     " ++ decimal 0 s ++ "s\n"
    | none => ""
  "🖥️  Host information\n===================\n"
    ++ "Processors: " ++ toString m.processors ++ "\n"
    ++ "Kernel:     " ++ kernel ++ "\n"
    ++ "Load:       " ++ load ++ "\n"
    ++ uptime

/-- The machine that the texts of the system describe. -/
def ofTexts (processors : Nat) (kernel : Option Kernel) (load uptime : Option String) :
    Machine where
  processors := max processors 1
  kernel := kernel
  load := load.bind fun line => (LoadAverage.parse line).toOption
  uptimeSeconds := uptime.bind fun line =>
    (LoadAverage.fields line).head?.bind fun s => (readFloat s).toOption

end Machine

end VmMonitor
