/-
  Tokens of a document. Block collections are bracketed by tokens of their own, which stand for the
  indentation; the key of a mapping is announced by a token in front of it.
-/
import DeclaredTools.Yaml.Fault

namespace DeclaredTools.Yaml

/-- A tag as written: a handle and what follows it, or the whole tag. -/
structure TagName where
  handle : Option String
  suffix : String
  deriving DecidableEq

inductive Directive where
  | version (major minor : Nat)
  | tag (handle expansion : String)
  | unknown
  deriving DecidableEq

inductive Token where
  | directive (d : Directive)
  | documentStart
  | documentEnd
  | sequenceStart
  | mappingStart
  | blockEnd
  | leftBracket
  | rightBracket
  | leftBrace
  | rightBrace
  | comma
  | dash
  | key
  | value
  | alias (name : String)
  | anchor (name : String)
  | tag (name : TagName)
  | scalar (text : String) (plain : Bool)
  /-- The end of the text. -/
  | done
  /-- The place that cannot be read. -/
  | failed (f : Fault)
  deriving DecidableEq

end DeclaredTools.Yaml
