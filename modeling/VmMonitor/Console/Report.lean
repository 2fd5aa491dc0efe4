import VmMonitor.Console.Cell
import VmMonitor.Detail

/-!
# Report on one instance

The runtime, its arguments and its readings, and below them a table of its busiest threads.
-/

namespace VmMonitor

namespace ThreadReport

/-- The line over the threads. -/
def header (nameWidth : Nat) : String :=
  " " ++ " ".intercalate
    [padLeft 6 "TID", padRight nameWidth "NAME", "", padLeft 13 "STATE", padLeft 8 "CPU", "", "",
      "", padLeft 8 "TOTALCPU", padLeft 5 "BLOCKEDBY", ""]

/-- The line of a thread. -/
def line (nameWidth : Nat) (t : ThreadRow) : String :=
  " " ++ " ".intercalate
    [padLeft 6 (toString t.tid), Cell.left nameWidth t.name, "", padLeft 13 t.state,
      Cell.percent t.cpuPercent, "", "", "", Cell.percent t.totalCpuPercent,
      padLeft 5 ((t.blockedBy.map toString).getD ""), ""]

/-- A remark that not all threads are shown, if that is so. -/
def note (r : ThreadReport) (limit : Option Nat) : String :=
  match r.truncated, limit with
  | true, some n => " Note: Only top " ++ toString n ++ " threads (according cpu load) are shown!\n"
  | _, _ => ""

/-- The table of threads. -/
def table (r : ThreadReport) (nameWidth : Nat) (limit : Option Nat) : String :=
  header nameWidth ++ "\n"
    ++ if r.cpuTimeSupported then
        String.join (r.rows.map fun t => line nameWidth t ++ "\n") ++ r.note limit
      else "\n -Thread CPU telemetries are not available on the monitored jvm/platform-\n"

end ThreadReport

namespace DetailReport

/-- The most characters of the arguments that are shown. -/
def argumentsWidth : Nat := 67

/-- The arguments of the main class between blanks, cut if they are long. -/
def argumentsText (arguments : List String) : String :=
  let text := " ".intercalate arguments
  if argumentsWidth < text.length then leftmost argumentsWidth text ++ "[...]" else text

/-- The process and its arguments. -/
def commandLines (r : DetailReport) : List String :=
  match r.mainClass with
  | some main =>
    [" PID " ++ toString r.row.id ++ ": " ++ main ++ " ", " ARGS: " ++ argumentsText r.arguments]
  | none => [" PID " ++ toString r.row.id ++ ": ", " ARGS: [UNKNOWN] "]

/-- The lines above the threads. -/
def lines (r : DetailReport) : List String :=
  let m := r.row.metrics
  commandLines r ++
    [" VMARGS: ", " " ++ "\n ".intercalate r.inputArguments,
      " VM: " ++ r.vendor.getD "" ++ " " ++ r.vmName.getD "" ++ " " ++ r.javaVersion.getD "",
      " UP: " ++ padRight 7 (Cell.hoursMinutes m.uptimeMs)
        ++ " #THR: " ++ padRight 4 (toString m.threadCount)
        ++ " #THRPEAK: " ++ padRight 4 (toString r.peakThreadCount)
        ++ " #THRCREATED: " ++ padRight 4 (toString r.totalStartedThreads)
        ++ " USER: " ++ padRight 12 (r.row.osUser.getD ""),
      " GC-Time: " ++ padRight 7 (Cell.hoursMinutes m.gcTimeMs)
        ++ "  #GC-Runs: " ++ padRight 8 (toString m.gcCount)
        ++ "  #TotalLoadedClasses: " ++ padRight 8 (toString m.loadedClasses),
      " CPU: " ++ Cell.load m.cpuLoad ++ " GC: " ++ Cell.load m.gcLoad
        ++ " HEAP:" ++ padLeft 5 (Cell.megabytes m.heap.used)
        ++ " /" ++ padLeft 5 (Cell.megabytes m.heap.max)
        ++ " NONHEAP:" ++ padLeft 5 (Cell.megabytes m.nonHeap.used)
        ++ " /" ++ padLeft 5 (Cell.megabytes m.nonHeap.max),
      ""]

/-- The whole report. -/
def frame (r : DetailReport) (nameWidth : Nat) (limit : Option Nat) : String :=
  String.join (r.lines.map (· ++ "\n")) ++ r.threads.table nameWidth limit

end DetailReport

end VmMonitor
