import VmMonitor.Document.Yaml.Anchor

/-!
# Documents as YAML

A text is cut into tokens, the tokens spell one tree of nodes, and the tree without its anchors and
aliases is a document. Block and flow style, all five styles of scalars, tags, anchors, explicit
keys and directives are read; a second document is an error.
-/

namespace VmMonitor.Yaml

/-- Reads a document; `none` if the text is not YAML or holds more than one document. -/
def read (s : String) : Option Doc := (Node.root? s.toList).map Node.rootDoc

/-- Reads a document to look at all of it, which needs a limit on how often nodes are repeated. -/
def readWhole (s : String) : Option Doc := do
  let root ← Node.root? s.toList
  if root.isPassable then some root.rootDoc else none

/-- Numbers from `0.00001` up to sixteen whole digits are written without an exponent; infinities
and NaN start with a point. -/
def layout : Binary64.Layout := ⟨some 16, some (-4), false, ".nan", ".inf", "-.inf"⟩

end VmMonitor.Yaml
