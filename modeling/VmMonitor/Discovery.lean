import VmMonitor.Instance

/-!
# Discovery

Instances are listed anew in every so many cycles. What is reported are the entries of a listing
whose instance the listing before did not have; an instance that was gone for one listing is
reported again.
-/

namespace VmMonitor

/-- What lists the visible instances. -/
structure Directory (ω : Type) where
  list : ω → Except MonitorError (List VmDescriptor) × ω

/-- The instances of the last listing, and when the next one is due. -/
structure Discovery where
  known : Table InstanceId VmDescriptor := []
  /-- Cycles from one listing to the next, at least one. -/
  interval : Nat := 1
  cycle : Nat := 0

namespace Discovery

/-- A discovery that lists in every `interval`-th cycle; zero counts as one. -/
def new (interval : Nat) : Discovery := { interval := max interval 1 }

/-- Takes a listing over and reports its new entries. -/
def merge (visible : List VmDescriptor) (d : Discovery) : List VmDescriptor × Discovery :=
  (visible.filter fun vm => !Table.has vm.id d.known,
    { d with known := Table.ofList (visible.map fun vm => (vm.id, vm)) })

/-- One cycle: a listing, if it is due. A listing that fails uses up its turn. -/
def poll {ω : Type} (directory : Directory ω) (d : Discovery) (w : ω) :
    Except MonitorError (List VmDescriptor) × Discovery × ω :=
  let due := d.cycle % d.interval = 0
  let d := { d with cycle := d.cycle + 1 }
  if due then
    match directory.list w with
    | (.error e, w) => (.error e, d, w)
    | (.ok visible, w) =>
      let (added, d) := d.merge visible
      (.ok added, d, w)
  else (.ok [], d, w)

end Discovery

end VmMonitor
