import VmMonitor.Document.Decode
import VmMonitor.Metrics

/-!
# Order of instances

Instances are shown with the highest CPU load first, or with the smallest heap first. Loads are
compared in the total order on their patterns. Both orders are stable: instances with equal keys
stay as they were.
-/

namespace VmMonitor

/-- How instances are ordered. -/
inductive SortOrder
  | cpu
  | heap
  deriving DecidableEq, Repr, Inhabited

namespace SortOrder

/-- Whether metrics may stand before others. -/
def before (order : SortOrder) (a b : Metrics) : Bool :=
  match order with
  | cpu => b.cpuLoad.orderKey ≤ a.cpuLoad.orderKey
  | heap => a.heap.used ≤ b.heap.used

/-- Orders whatever carries metrics. -/
def sort {α : Type} (order : SortOrder) (metrics : α → Metrics) (items : List α) : List α :=
  items.mergeSort fun a b => order.before (metrics a) (metrics b)

def name : SortOrder → String
  | cpu => "cpu"
  | heap => "heap"

/-- An order by any of its names. -/
def ofName? (s : String) : Option SortOrder :=
  if s = "cpu" || s = "cpu_load" then some cpu
  else if s = "heap" || s = "heap_used" then some heap
  else none

def decode (format : Format) : Decoder SortOrder := Decode.word format ofName?

end SortOrder

end VmMonitor
