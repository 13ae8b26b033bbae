/-
  Why loading stops: a value in a document stands for nothing or has no text, or a name cannot be
  looked up.
-/
import DeclaredTools.Files.Path
import DeclaredTools.Report
import DeclaredTools.Yaml.Fault

namespace DeclaredTools

inductive LoadError where
  | value (f : Yaml.Fault)
  | text (e : Unwritable)
  | nameTooLong (p : Path)
  /-- The null character ends no name. -/
  | nullCharacter

namespace LoadError

def message : LoadError → String
  | .value f => f.message
  | .text e => e.message
  | .nameTooLong p => "[Errno 36] File name too long: " ++ Value.quoted p.text
  | .nullCharacter => "embedded null byte"

end LoadError

/-- Work that loading can stop. -/
abbrev Loading := Report LoadError

end DeclaredTools
