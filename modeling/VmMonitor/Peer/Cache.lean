import VmMonitor.Peer

/-!
# A cache that learns

Between two flushes an attribute is read at most once. The cache reads in batches: it learns which
names of an object are asked for, and a batch fetches all of them, so that from the second cycle on
one request per object is enough. A name that a batch leaves out is read by itself, so that the
caller sees why.

The cache around a source is a source again.
-/

namespace VmMonitor

/-- Learned names and cached values, by object. -/
structure Cache where
  /-- The names that were ever in a successful batch. -/
  learned : Register ObjectName (List String) := []
  /-- The values of the batches since the last flush. -/
  values : Register ObjectName AttributeMap := []

namespace Cache

/-- Forgets the values, but not what was learned. -/
def flush (c : Cache) : Cache := { c with values := [] }

/-- The names learned for an object, if it was ever read. -/
def learned? (c : Cache) (object : ObjectName) : Option (List String) := c.learned.get? object

/-- The cached values of an object, if they hold all of the names. -/
def hit? (c : Cache) (object : ObjectName) (names : List String) : Option AttributeMap :=
  match c.values.get? object with
  | some m => if names.all fun n => Table.has n m then some m else none
  | none => none

/-- The names of the next batch: the requested and the learned ones, sorted and without repeats. -/
def wanted (c : Cache) (object : ObjectName) (names : List String) : List String :=
  sortedSet (names ++ (c.learned? object).getD [])

/-- The cache after a batch that was answered. -/
def store (c : Cache) (object : ObjectName) (names : List String) (m : AttributeMap) : Cache where
  learned := c.learned.set object names
  values := c.values.set object m

variable {σ : Type} (src : Source σ)

/-- A request that passes through the cache. -/
def through (r : Request) : Exchange (Cache × σ) r.Answer := (src.ask r).beside Cache

/-- The values of an object with all of the names, as far as its batch has them: from the cache, or
by one batch. -/
def lookup (object : ObjectName) (names : List String) : Exchange (Cache × σ) AttributeMap :=
  fun (c, s) =>
    match c.hit? object names with
    | some m => (.ok m, (c, s))
    | none =>
      let wanted := c.wanted object names
      match (src.ask (.batch object wanted)).run s with
      | (.ok m, s) => (.ok m, (c.store object wanted m, s))
      | (.error e, s) => (.error e, (c, s))

/-- One attribute: from the object's values, or by itself where the batch left it out. -/
def one (object : ObjectName) (name : String) : Exchange (Cache × σ) AttributeValue := do
  match Table.get? name (← lookup src object [name]) with
  | some v => return v
  | none => through src (.single object name)

/-- Several attributes; names that the batch left out are missing. -/
def many (object : ObjectName) (names : List String) : Exchange (Cache × σ) AttributeMap := do
  let m ← lookup src object names
  return Table.ofList (names.filterMap fun n => (Table.get? n m).map fun v => (n, v))

/-- The cache around a source. -/
def source : Source (Cache × σ) where
  ask
    | .single object name => one src object name
    | .batch object names => many src object names
    | .query pattern => through src (.query pattern)
    | .invoke object operation params => through src (.invoke object operation params)

end Cache

end VmMonitor
