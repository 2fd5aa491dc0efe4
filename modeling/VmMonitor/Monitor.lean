import VmMonitor.Discovery
import VmMonitor.Order

/-!
# Monitoring all instances

In every cycle newly listed instances are tracked, all tracked instances are updated, and their rows
are published in order. An instance that fails does not disturb the others; a listing that fails
ends the cycle before anything happened.
-/

namespace VmMonitor

/-- All that a monitor holds between two cycles. -/
structure Monitor where
  discovery : Discovery := {}
  registry : Registry := {}
  tracked : List TrackedVm := []
  order : SortOrder := .cpu
  /-- The rows of the last cycle that came to its end. -/
  published : List InstanceRow := []

namespace Monitor

def new (order : SortOrder) (scanInterval : Nat) : Monitor :=
  { discovery := Discovery.new scanInterval, order }

variable {ω : Type} (t : Transport ω)

/-- Tracks the listed instances that are not tracked yet. -/
def track : List VmDescriptor → List TrackedVm → World ω → List TrackedVm × World ω
  | [], tracked, world => (tracked, world)
  | d :: ds, tracked, world =>
    if tracked.any fun vm => vm.id = d.id then track ds tracked world
    else
      let (vm, world) := TrackedVm.attach t d world
      track ds (tracked ++ [vm]) world

/-- Updates all tracked instances in their order. -/
def updateAll : List TrackedVm → World ω → List TrackedVm × World ω
  | [], world => ([], world)
  | vm :: vms, world =>
    let (_, vm, world) := vm.update t world
    let (vms, world) := updateAll vms world
    (vm :: vms, world)

/-- One cycle: the rows that are published by it. -/
def cycle (directory : Directory ω) (m : Monitor) (w : ω) :
    Except MonitorError (List InstanceRow) × Monitor × ω :=
  match m.discovery.poll directory w with
  | (.error e, discovery, w) => (.error e, { m with discovery }, w)
  | (.ok added, discovery, w) =>
    let (tracked, world) := track t added m.tracked ⟨m.registry, w⟩
    let (tracked, world) := updateAll t tracked world
    let tracked := m.order.sort TrackedVm.metrics tracked
    let rows := tracked.map fun vm => vm.row world.registry
    (.ok rows, { m with discovery, registry := world.registry, tracked, published := rows },
      world.peers)

/-- Closes all sessions. -/
def shutdown (m : Monitor) (w : ω) : Monitor × ω :=
  let (registry, w) := m.registry.closeAll t w
  ({ m with registry }, w)

end Monitor

end VmMonitor
