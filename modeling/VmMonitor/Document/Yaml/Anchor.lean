import VmMonitor.Document.Yaml.Node

/-!
# Anchors and aliases

An anchor gets a number when its node starts: how many names there are already. A name that is given
anew gets a new number and does not count twice, so two nodes may share a number; then the later
node has it. An alias stands for the node that has, in the end, the number which the alias met.

Nodes are nested at most so deep, and every alias leads to a list or table or ends there. So it is
enough to put nodes in place of aliases that many times; what is left is too deep for any reader.
-/

namespace VmMonitor.Yaml.Node

/-! ### Numbers for names -/

/-- The names so far with their numbers. -/
abbrev Names := List (String × Nat)

/-- The number of an anchor, if there is one. -/
def declare (anchor : Option String) : StateT Names Option (Option Nat) := fun names =>
  match anchor with
  | none => some (none, names)
  | some name =>
    let number := names.length
    some (some number, (name, number) :: names.filter (·.1 ≠ name))

mutual

/-- The node with numbers in place of names; every alias needs an anchor in front of it. -/
def numbered : Node String → StateT Names Option (Node Nat)
  | .alias name => do
    let names ← get
    let number ← (names.lookup name : Option Nat)
    return .alias number
  | .scalar anchor tag s => do
    let anchor ← declare anchor
    return .scalar anchor tag s
  | .list anchor tag items => do
    let anchor ← declare anchor
    return .list anchor tag (← numberedItems items)
  | .table anchor tag entries => do
    let anchor ← declare anchor
    return .table anchor tag (← numberedEntries entries)

def numberedItems : List (Node String) → StateT Names Option (List (Node Nat))
  | [] => return []
  | n :: ns => do
    let n ← numbered n
    return n :: (← numberedItems ns)

def numberedEntries :
    List (Node String × Node String) → StateT Names Option (List (Node Nat × Node Nat))
  | [] => return []
  | (k, v) :: es => do
    let k ← numbered k
    let v ← numbered v
    return (k, v) :: (← numberedEntries es)

end

/-- A node in front of others, if it has an anchor. -/
def own (anchor : Option Nat) (n : Node Nat) (others : List (Nat × Node Nat)) :
    List (Nat × Node Nat) :=
  match anchor with
  | some number => (number, n) :: others
  | none => others

mutual

/-- The nodes with anchors, by their numbers, in front of `others`; later ones come first. -/
def anchored (others : List (Nat × Node Nat)) : Node Nat → List (Nat × Node Nat)
  | .alias _ => others
  | .scalar anchor tag s => own anchor (.scalar anchor tag s) others
  | .list anchor tag items => anchoredItems (own anchor (.list anchor tag items) others) items
  | .table anchor tag entries =>
    anchoredEntries (own anchor (.table anchor tag entries) others) entries

def anchoredItems (others : List (Nat × Node Nat)) : List (Node Nat) → List (Nat × Node Nat)
  | [] => others
  | n :: ns => anchoredItems (anchored others n) ns

def anchoredEntries (others : List (Nat × Node Nat)) :
    List (Node Nat × Node Nat) → List (Nat × Node Nat)
  | [] => others
  | (k, v) :: es => anchoredEntries (anchored (anchored others k) v) es

end

/-! ### Documents in place of aliases -/

/-- A document behind its tag, if it has one. -/
def tagged (tag : Option String) (d : Doc) : Doc :=
  match tag with
  | some t => .tagged t d
  | none => d

mutual

/-- The document of a node, with the document of a number in place of an alias. -/
def doc (target : Nat → Doc) : Node Nat → Doc
  | .alias number => target number
  | .scalar _ tag s => tagged tag (.scalar s)
  | .list _ tag items => tagged tag (.list (docItems target items))
  | .table _ tag entries => tagged tag (.table (docEntries target entries))

def docItems (target : Nat → Doc) : List (Node Nat) → List Doc
  | [] => []
  | n :: ns => doc target n :: docItems target ns

def docEntries (target : Nat → Doc) : List (Node Nat × Node Nat) → List (Doc × Doc)
  | [] => []
  | (k, v) :: es => (doc target k, doc target v) :: docEntries target es

end

/-- How deep lists and tables are nested at most. -/
def depthLimit : Nat := 128

/-- The documents of nodes with numbers, after so many rounds of putting them in place of aliases. -/
def targets (nodes : List (Nat × Node Nat)) : Nat → List (Nat × Doc)
  | 0 => []
  | rounds + 1 =>
    let inner := targets nodes rounds
    nodes.map fun (number, n) =>
      (number, n.doc fun i => (inner.lookup i).getD (.scalar .unreadable))

/-- The document of a root. -/
def rootDoc (root : Node Nat) : Doc :=
  let nodes := root.anchored []
  let inner := if nodes.isEmpty then [] else targets nodes (depthLimit + 1)
  root.doc fun i => (inner.lookup i).getD (.scalar .unreadable)

/-! ### The length of a document -/

mutual

/-- The number of aliases that are met on the way through a node, each with those of its own. -/
def detours (cost : Nat → Nat) : Node Nat → Nat
  | .alias number => 1 + cost number
  | .scalar _ _ _ => 0
  | .list _ _ items => detoursOfItems cost items
  | .table _ _ entries => detoursOfEntries cost entries

def detoursOfItems (cost : Nat → Nat) : List (Node Nat) → Nat
  | [] => 0
  | n :: ns => detours cost n + detoursOfItems cost ns

def detoursOfEntries (cost : Nat → Nat) : List (Node Nat × Node Nat) → Nat
  | [] => 0
  | (k, v) :: es => detours cost k + detours cost v + detoursOfEntries cost es

end

mutual

/-- The number of starts and ends of nodes. -/
def size : Node Nat → Nat
  | .alias _ => 1
  | .scalar _ _ _ => 1
  | .list _ _ items => 2 + sizeOfItems items
  | .table _ _ entries => 2 + sizeOfEntries entries

def sizeOfItems : List (Node Nat) → Nat
  | [] => 0
  | n :: ns => size n + sizeOfItems ns

def sizeOfEntries : List (Node Nat × Node Nat) → Nat
  | [] => 0
  | (k, v) :: es => size k + size v + sizeOfEntries es

end

/-- The detours of nodes with numbers, after so many rounds; no count goes beyond `bound`. -/
def costs (bound : Nat) (nodes : List (Nat × Node Nat)) : Nat → List (Nat × Nat)
  | 0 => []
  | rounds + 1 =>
    let inner := costs bound nodes rounds
    nodes.map fun (number, n) => (number, min bound (n.detours fun i => (inner.lookup i).getD 0))

/-- Whether the way through all of a root has at most a hundred aliases for every start or end. -/
def isPassable (root : Node Nat) : Bool :=
  let limit := 100 * root.size
  let nodes := root.anchored []
  let inner := if nodes.isEmpty then [] else costs (limit + 1) nodes (depthLimit + 1)
  root.detours (fun i => (inner.lookup i).getD 0) ≤ limit

/-- The root with numbers for its names. -/
def root? (cs : List Char) : Option (Node Nat) := do
  let n ← ofTokens? (← Token.ofText? cs)
  let (n, _) ← (numbered n).run []
  return n

end VmMonitor.Yaml.Node
