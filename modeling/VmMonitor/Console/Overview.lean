import VmMonitor.Console.Cell
import VmMonitor.Instance

/-!
# Overview of all instances

One line per instance below a header. The columns of a line keep their places whatever the texts
in it; an instance whose session is not attached and well shows a marker in place of its readings.
-/

namespace VmMonitor.Overview

/-- The width of the column of main classes. -/
def mainClassWidth : Nat := 15

def header : String :=
  " ".intercalate
    [padLeft 5 "PID", padRight mainClassWidth "MAIN-CLASS", padLeft 5 "HPCUR", padLeft 5 "HPMAX",
      padLeft 5 "NHCUR", padLeft 5 "NHMAX", padLeft 6 "CPU", padLeft 6 "GC", padLeft 5 "VM",
      padLeft 8 "USERNAME", padLeft 4 "#T", padLeft 2 "DL"]

/-- The cells of an instance whose readings are shown. -/
def cells (row : InstanceRow) : List String :=
  let m := row.metrics
  [padLeft 5 (toString row.id),
    Cell.left mainClassWidth (entryPointOf mainClassWidth row.displayName),
    padLeft 5 (Cell.megabytes m.heap.used), padLeft 5 (Cell.megabytes m.heap.max),
    padLeft 5 (Cell.megabytes m.nonHeap.used), padLeft 5 (Cell.megabytes m.nonHeap.max),
    Cell.load m.cpuLoad, Cell.load m.gcLoad,
    Cell.left 5 (row.vmVersion.getD ""), Cell.right 8 (row.osUser.getD ""),
    padLeft 4 (toString m.threadCount), Cell.deadlock m.deadlocks]

/-- The line of an instance. -/
def line (row : InstanceRow) : String :=
  match row.state.marker? with
  | none => " ".intercalate (cells row)
  | some marker =>
    " ".intercalate
      [padLeft 5 (toString row.id), Cell.left 25 (entryPointOf mainClassWidth row.displayName),
        marker, ""]

/-- The header and one line per row. -/
def frame (rows : List InstanceRow) : String :=
  String.join ((header :: rows.map line).map (· ++ "\n"))

/-- What is shown at the end of a run: the rows of the last cycle, if there are any. -/
def finalReading (rows : List InstanceRow) : String :=
  if rows.isEmpty then "" else "\n" ++ frame rows

/-- The readings of one instance on one line. -/
def statLine (row : InstanceRow) : String :=
  let m := row.metrics
  " ".intercalate
    [padLeft 5 (toString row.id), padLeft 5 (Cell.megabytes m.heap.used), Cell.load m.cpuLoad,
      Cell.load m.gcLoad, padLeft 4 (toString m.threadCount), Cell.deadlock m.deadlocks]

end VmMonitor.Overview
