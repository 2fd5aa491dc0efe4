import VmMonitor.Console.Overview
import VmMonitor.Console.Report
import VmMonitor.Monitor

/-!
# Views

A view turns a cycle into a frame of text: the overview of all instances, the report on one of them,
or one line per cycle for one of them. A view of one instance is over when a cycle gives no report.
-/

namespace VmMonitor

/-- What is shown on the console. -/
inductive View
  | overview (monitor : Monitor)
  | detail (monitor : DetailMonitor) (nameWidth : Nat) (limit : Option Nat) (ended : Bool)
  | stat (monitor : DetailMonitor) (ended : Bool)

namespace View

/-- Whether the view has nothing more to show. -/
def isOver : View → Bool
  | overview _ => false
  | detail _ _ _ ended => ended
  | stat _ ended => ended

/-- Whether a line about the machine goes on top of a frame. -/
def hasTopBar : View → Bool
  | stat _ _ => false
  | _ => true

/-- Whether a frame takes the place of the one before. -/
def clears : View → Bool
  | stat _ _ => false
  | _ => true

/-- The rows of the last cycle. -/
def published : View → List InstanceRow
  | overview m => m.published
  | detail m _ _ _ => m.published
  | stat m _ => m.published

/-- All sessions that the view ever had. -/
def sessions : View → List Session
  | overview m => m.registry.sessions
  | detail m _ _ _ => m.registry.sessions
  | stat m _ => m.registry.sessions

/-- What is shown of an instance that is not attached. -/
def notAttachedText : String := "ERROR: Could not attach to process.\n"

variable {ω : Type} (t : Transport ω)

/-- One cycle and its frame. -/
def render (directory : Directory ω) (v : View) (w : ω) : Except MonitorError String × View × ω :=
  match v with
  | overview m =>
    let (rows, m, w) := m.cycle t directory w
    (rows.map Overview.frame, overview m, w)
  | detail m nameWidth limit ended =>
    match m.cycle t w with
    | (.report r, m, w) => (.ok (r.frame nameWidth limit), detail m nameWidth limit ended, w)
    | (.fetchFailed, m, w) =>
      (.ok "ERROR: Could not fetch telemetries - Process terminated?\n",
        detail m nameWidth limit true, w)
    | (.notAttached, m, w) => (.ok notAttachedText, detail m nameWidth limit true, w)
  | stat m ended =>
    match m.cycle t w with
    | (.report r, m, w) => (.ok (Overview.statLine r.row ++ "\n"), stat m ended, w)
    | (.fetchFailed, m, w) =>
      (.ok "ERROR: Could not fetch telemetries - Process terminated.\n", stat m true, w)
    | (.notAttached, m, w) => (.ok notAttachedText, stat m true, w)

/-- Closes all sessions. -/
def shutdown (v : View) (w : ω) : View × ω :=
  match v with
  | overview m =>
    let (m, w) := m.shutdown t w
    (overview m, w)
  | detail m nameWidth limit ended =>
    let (m, w) := m.shutdown t w
    (detail m nameWidth limit ended, w)
  | stat m ended =>
    let (m, w) := m.shutdown t w
    (stat m ended, w)

end View

end VmMonitor
