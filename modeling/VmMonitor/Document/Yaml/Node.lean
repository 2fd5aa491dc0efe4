import VmMonitor.Document.Tag
import VmMonitor.Document.Yaml.Token

/-!
# Nodes of a YAML text

The tree that the tokens of a text spell, with its anchors and aliases by name. A text holds one
document. Where a node is left out, an empty plain scalar stands in its place.
-/

namespace VmMonitor.Yaml

/-- A node whose anchors and aliases are named by `ι`. -/
inductive Node (ι : Type)
  | alias (target : ι)
  | scalar (anchor : Option ι) (tag : Option String) (s : Scalar)
  | list (anchor : Option ι) (tag : Option String) (items : List (Node ι))
  | table (anchor : Option ι) (tag : Option String) (entries : List (Node ι × Node ι))
  deriving Repr

namespace Node

/-- A node that is left out. -/
def empty {ι : Type} : Node ι := .scalar none none (.plain "")

/-! ### Tags -/

/-- The handles that need no directive. -/
def usualHandles : List (String × String) := [("!", "!"), ("!!", Tag.core)]

/-- The tag that a handle and a text spell. -/
def tag? (handles : List (String × String)) : String × String → Option String
  | (handle, text) => if handle.isEmpty then some text else (handles.lookup handle).map (· ++ text)

/-- The anchor and the tag in front of a node, in either order. -/
def front : List Token → Option String × Option (String × String) × List Token
  | .anchor a :: .tag h t :: ts => (some a, some (h, t), ts)
  | .anchor a :: ts => (some a, none, ts)
  | .tag h t :: .anchor a :: ts => (some a, some (h, t), ts)
  | .tag h t :: ts => (none, some (h, t), ts)
  | ts => (none, none, ts)

/-! ### Reading -/

/-- Where a node stands: in brackets, in a block, or behind the key or colon of a block table, where
a list needs no indentation. -/
inductive Setting
  | flow
  | block
  | entry
  deriving DecidableEq, Repr

/-- What follows where the item of a block list is left out. -/
def endsItem : Option Token → Bool
  | some .dash => true
  | some .blockEnd => true
  | _ => false

/-- What follows where the key or the value of a block table is left out. -/
def endsEntry : Option Token → Bool
  | some .key => true
  | some .value => true
  | some .blockEnd => true
  | _ => false

/-- What follows where the value in a list in brackets is left out. -/
def endsFlowItem : Option Token → Bool
  | some .comma => true
  | some .closeList => true
  | _ => false

/-- What follows where the value of a table in braces is left out. -/
def endsFlowEntry : Option Token → Bool
  | some .comma => true
  | some .closeTable => true
  | _ => false

mutual

/-- The node that the tokens start with, and the tokens behind it. -/
def read (handles : List (String × String)) :
    Nat → Setting → List Token → Option (Node String × List Token)
  | 0, _, _ => none
  | fuel + 1, setting, ts =>
    match ts with
    | .alias name :: ts => some (.alias name, ts)
    | ts => do
      let (anchor, spelled, ts) := front ts
      let tag ← match spelled with
        | some t => (tag? handles t).map some
        | none => some none
      let leftOut (ts : List Token) : Option (Node String × List Token) :=
        if anchor.isNone && tag.isNone then none else some (.scalar anchor tag (.plain ""), ts)
      match ts with
      | .scalar s :: ts => some (.scalar anchor (if tag = some "!" then none else tag) s, ts)
      | .openList :: ts =>
        (readFlowItems handles fuel true [] ts).map fun (ns, ts) => (.list anchor tag ns, ts)
      | .openTable :: ts =>
        (readFlowEntries handles fuel true [] ts).map fun (es, ts) => (.table anchor tag es, ts)
      | .blockList :: ts =>
        if setting = .flow then leftOut (.blockList :: ts)
        else (readItems handles fuel [] ts).map fun (ns, ts) => (.list anchor tag ns, ts)
      | .blockTable :: ts =>
        if setting = .flow then leftOut (.blockTable :: ts)
        else (readEntries handles fuel [] ts).map fun (es, ts) => (.table anchor tag es, ts)
      | .dash :: ts =>
        if setting = .entry then
          (readLevelItems handles fuel [] (.dash :: ts)).map fun (ns, ts) => (.list anchor tag ns, ts)
        else leftOut (.dash :: ts)
      | ts => leftOut ts

/-- The items of a block list up to its end, reversed onto `acc`. -/
def readItems (handles : List (String × String)) :
    Nat → List (Node String) → List Token → Option (List (Node String) × List Token)
  | 0, _, _ => none
  | fuel + 1, acc, ts =>
    match ts with
    | .blockEnd :: ts => some (acc.reverse, ts)
    | .dash :: ts =>
      if endsItem ts.head? then readItems handles fuel (empty :: acc) ts
      else do
        let (n, ts) ← read handles fuel .block ts
        readItems handles fuel (n :: acc) ts
    | _ => none

/-- The items of a list that is not indented, reversed onto `acc`. -/
def readLevelItems (handles : List (String × String)) :
    Nat → List (Node String) → List Token → Option (List (Node String) × List Token)
  | 0, _, _ => none
  | fuel + 1, acc, ts =>
    match ts with
    | .dash :: ts =>
      if endsItem ts.head? || endsEntry ts.head? then
        readLevelItems handles fuel (empty :: acc) ts
      else do
        let (n, ts) ← read handles fuel .block ts
        readLevelItems handles fuel (n :: acc) ts
    | ts => some (acc.reverse, ts)

/-- The entries of a block table up to its end, reversed onto `acc`. -/
def readEntries (handles : List (String × String)) :
    Nat → List (Node String × Node String) → List Token →
      Option (List (Node String × Node String) × List Token)
  | 0, _, _ => none
  | fuel + 1, acc, ts =>
    match ts with
    | .blockEnd :: ts => some (acc.reverse, ts)
    | .key :: ts => do
      let (k, ts) ← if endsEntry ts.head? then some (empty, ts) else read handles fuel .entry ts
      match ts with
      | .value :: ts =>
        if endsEntry ts.head? then readEntries handles fuel ((k, empty) :: acc) ts
        else
          let (v, ts) ← read handles fuel .entry ts
          readEntries handles fuel ((k, v) :: acc) ts
      | ts => readEntries handles fuel ((k, empty) :: acc) ts
    | _ => none

/-- The items of a list in brackets up to its end, reversed onto `acc`; a comma stands in front of
every item but the first. An item with a key is a table of one entry. If its key is left out, the
token there is passed over. -/
def readFlowItems (handles : List (String × String)) :
    Nat → Bool → List (Node String) → List Token → Option (List (Node String) × List Token)
  | 0, _, _, _ => none
  | fuel + 1, isFirst, acc, ts =>
    match isFirst, ts with
    | _, .closeList :: ts => some (acc.reverse, ts)
    | false, .comma :: ts => readFlowItems handles fuel true acc ts
    | false, _ => none
    | true, .key :: ts => do
      let (k, ts) ←
        if endsFlowItem ts.head? || endsEntry ts.head? then some (empty, ts.drop 1)
        else read handles fuel .flow ts
      let (v, ts) ← match ts with
        | .value :: ts =>
          if endsFlowItem ts.head? then some (empty, ts) else read handles fuel .flow ts
        | ts => some (empty, ts)
      readFlowItems handles fuel false (.table none none [(k, v)] :: acc) ts
    | true, ts => do
      let (n, ts) ← read handles fuel .flow ts
      readFlowItems handles fuel false (n :: acc) ts

/-- The entries of a table in braces up to its end, reversed onto `acc`; a comma stands in front of
every entry but the first. -/
def readFlowEntries (handles : List (String × String)) :
    Nat → Bool → List (Node String × Node String) → List Token →
      Option (List (Node String × Node String) × List Token)
  | 0, _, _, _ => none
  | fuel + 1, isFirst, acc, ts =>
    match isFirst, ts with
    | _, .closeTable :: ts => some (acc.reverse, ts)
    | false, .comma :: ts => readFlowEntries handles fuel true acc ts
    | false, _ => none
    | true, .key :: ts => do
      let (k, ts) ←
        if endsFlowEntry ts.head? || ts.head?.any (· matches .value) then some (empty, ts)
        else read handles fuel .flow ts
      let (v, ts) ← match ts with
        | .value :: ts =>
          if endsFlowEntry ts.head? then some (empty, ts) else read handles fuel .flow ts
        | ts => some (empty, ts)
      readFlowEntries handles fuel false ((k, v) :: acc) ts
    | true, ts => do
      let (k, ts) ← read handles fuel .flow ts
      readFlowEntries handles fuel false ((k, empty) :: acc) ts

end

/-! ### Documents -/

/-- The handles of a document whose directives are these; there is at most one version, `1.1` or
`1.2`, and no handle is given twice. -/
def handles? : Bool → List (String × String) → List Property.Directive →
    Option (List (String × String))
  | _, handles, [] => some (handles ++ usualHandles)
  | versioned, handles, .version major minor :: ds =>
    if !versioned && major = 1 && (minor = 1 || minor = 2) then handles? true handles ds else none
  | versioned, handles, .handle name meaning :: ds =>
    if handles.any (·.1 = name) then none else handles? versioned ((name, meaning) :: handles) ds

/-- The directives at the head of the tokens, and the tokens behind them. -/
def directives : List Token → List Property.Directive × List Token
  | .directive d :: ts =>
    let (ds, ts) := directives ts
    (d :: ds, ts)
  | ts => ([], ts)

/-- Whether the document that starts here has no content. -/
def endsDocument : List Token → Bool
  | [] => true
  | .directive _ :: _ => true
  | .documentStart :: _ => true
  | .documentEnd :: _ => true
  | _ => false

/-- The root of the only document. Without a marker in front of it, it has content. -/
def ofTokens? (ts : List Token) : Option (Node String) := do
  let fuel := 3 * ts.length + 3
  let (root, ts) ← match ts with
    | [] => some (empty, [])
    | .directive d :: ts => do
      let (ds, ts) := directives (.directive d :: ts)
      let handles ← handles? false [] ds
      match ts with
      | .documentStart :: ts =>
        if endsDocument ts then some (empty, ts) else read handles fuel .block ts
      | _ => none
    | .documentStart :: ts =>
      if endsDocument ts then some (empty, ts) else read usualHandles fuel .block ts
    | ts => read usualHandles fuel .block ts
  if ts.all (· matches .documentEnd) then some root else none

end Node

end VmMonitor.Yaml
