/-
  Reading a document: from a text to a value.
-/
import DeclaredTools.Yaml.Draft

namespace DeclaredTools.Yaml

/-- The value of a document; an empty one is null. -/
def read (order : SetOrder) (source : Source) : Except Fault Value := do
  match ← Graph.ofTokens? (tokens source) with
  | some graph => Draft.value? order graph
  | none => return .null

end DeclaredTools.Yaml
