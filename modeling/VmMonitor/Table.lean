/-!
# Tables

A table has one entry per key, in ascending order of the keys. Attribute values, properties, thread
times and the known instances are tables, so what is read out of them has one order. A register has
one entry per key too, in the order in which the keys came; it asks for nothing but equality.
-/

namespace VmMonitor

/-- Entries in ascending order of their keys. -/
abbrev Table (κ α : Type) := List (κ × α)

namespace Table

variable {κ α : Type} [LT κ] [DecidableLT κ]

/-- The table with `a` under `k`; an entry that was there is replaced. -/
def insert (k : κ) (a : α) : Table κ α → Table κ α
  | [] => [(k, a)]
  | (k', a') :: t =>
    if k < k' then (k, a) :: (k', a') :: t
    else if k' < k then (k', a') :: insert k a t
    else (k, a) :: t

/-- The table of a list of entries, of which the last one with a key wins. -/
def ofList (entries : List (κ × α)) : Table κ α :=
  entries.foldl (fun t e => insert e.1 e.2 t) []

/-- The value under `k`. -/
def get? [DecidableEq κ] (k : κ) (t : Table κ α) : Option α :=
  (t.find? fun e => e.1 = k).map (·.2)

/-- Whether there is a value under `k`. -/
def has [DecidableEq κ] (k : κ) (t : Table κ α) : Bool := (get? k t).isSome

/-- The keys in ascending order. -/
def keys (t : Table κ α) : List κ := t.map (·.1)

/-- The table without the entry under `k`. -/
def erase [DecidableEq κ] (k : κ) (t : Table κ α) : Table κ α := t.filter fun e => e.1 ≠ k

end Table

/-- Entries in the order in which their keys came. -/
abbrev Register (κ α : Type) := List (κ × α)

namespace Register

variable {κ α : Type} [DecidableEq κ]

/-- The register with `a` under `k`; an entry that was there is replaced in its place. -/
def set (k : κ) (a : α) : Register κ α → Register κ α
  | [] => [(k, a)]
  | (k', a') :: r => if k' = k then (k, a) :: r else (k', a') :: set k a r

/-- The value under `k`. -/
def get? (k : κ) : Register κ α → Option α
  | [] => none
  | (k', a) :: r => if k' = k then some a else get? k r

/-- The register without the entry under `k`. -/
def erase (k : κ) (r : Register κ α) : Register κ α := r.filter fun e => e.1 ≠ k

end Register

/-- The distinct members of a list in ascending order. -/
def sortedSet {κ : Type} [LT κ] [DecidableLT κ] (xs : List κ) : List κ :=
  (Table.ofList (xs.map fun x => (x, ()))).keys

end VmMonitor
