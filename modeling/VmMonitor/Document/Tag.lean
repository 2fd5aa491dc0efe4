import VmMonitor.Document

/-!
# Tags

What the tag of a node says about it. A tag of the core types fixes the type of a leaf. A tag that
starts with an exclamation mark belongs to the text itself and names an alternative. Any other tag
says nothing.
-/

namespace VmMonitor.Tag

/-- What the tags of the core types start with. -/
def core : String := "tag:yaml.org,2002:"

def null : String := core ++ "null"

def bool : String := core ++ "bool"

def int : String := core ++ "int"

def float : String := core ++ "float"

/-- The alternative that a tag names; the exclamation mark alone is a name. -/
def alternative? (tag : String) : Option String :=
  match tag.toList with
  | ['!'] => some "!"
  | '!' :: name => some (String.ofList name)
  | _ => none

/-- The tag that names an alternative. -/
def ofAlternative (name : String) : String := "!" ++ name

end VmMonitor.Tag
