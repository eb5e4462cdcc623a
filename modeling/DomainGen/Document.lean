import DomainGen.Failure
import DomainGen.Yaml.Value

/-!
# Documents

A document is a YAML text from somewhere; `source` says where from, for messages.
-/

namespace DomainGen

/-- The value of a document. A text that is not YAML is an error of the loading; a scalar that
    denotes nothing is a fault. -/
def readDocument (text source : String) : Except Failure Data :=
  match Yaml.read text with
  | .ok value => .ok value
  | .error .malformed => .error (.loading (.invalidYaml source text))
  | .error (.fault f) => .error (.fault f)

end DomainGen
