import VmMonitor.AttributeValue
import VmMonitor.Document.Json
import VmMonitor.Document.Yaml

/-!
# Values of attributes as text

A value is read from a whole document, JSON or YAML.
-/

namespace VmMonitor.AttributeValue

/-- Reads a value from JSON. -/
def ofJson? (content : String) : Option AttributeValue :=
  Json.read content >>= decode Json.depthLimit

/-- Reads a value from YAML. -/
def ofYaml? (content : String) : Option AttributeValue :=
  Yaml.readWhole content >>= decode Yaml.Node.depthLimit

end VmMonitor.AttributeValue
