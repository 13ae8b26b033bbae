/-
  Declarations: what a document says about one tool. A field that the document leaves out is unset,
  which is not the same as null; merging is about set fields only.
-/
import DeclaredTools.Declaration.ToolRefs
import DeclaredTools.Event

namespace DeclaredTools

/-- Whether the referenced tools form a sequence or are used as needed. -/
inductive ToolMode where
  | sequential
  | situational
  deriving DecidableEq

namespace ToolMode

def table : List (String × ToolMode) :=
  [("sequential", .sequential), ("situational", .situational)]

def name : ToolMode → String
  | .sequential => "sequential"
  | .situational => "situational"

def ofValue? : Value → Option ToolMode
  | .text s => table.lookup s
  | _ => none

end ToolMode

structure Declaration where
  key : String
  name : Option (Option String)
  description : Option (Option String)
  prompt : Option (Option String)
  context : Option (Option String)
  parameters : Option (Option Parameters)
  tools : Option (Option ToolRefs)
  toolMode : Option (Option ToolMode)
  disabled : Option Bool

/-- Declarations by key. -/
abbrev DeclarationSet := OrderedMap Declaration

namespace Declaration

/-- The name under which the tool is called: its own, or else its key. -/
def registeredName (d : Declaration) : String :=
  match d.name.join with
  | some n => if n = "" then d.key else n
  | none => d.key

def isEnabled (d : Declaration) : Bool := !d.disabled.getD false

/-- The parameters, of which an undescribed tool has none. -/
def parameterList (d : Declaration) : Parameters := d.parameters.join.getD []

private def parametersOf : Value → Option Parameters
  | .map es => some (Parameters.ofValue (.map es))
  | _ => none

/-- The declaration that the entries of a map make under a key. -/
def ofEntries (key : String) (es : List (Value × Value)) : Declaration where
  key := key
  name := (Value.lookup "name" es).map Shape.textOf
  description := (Value.lookup "description" es).map Shape.textOf
  prompt := (Value.lookup "prompt" es).map Shape.textOf
  context := (Value.lookup "context" es).map Shape.textOf
  parameters := (Value.lookup "parameters" es).map parametersOf
  tools := (Value.lookup "tools" es).map ToolRefs.ofValue?
  toolMode := (Value.lookup "toolMode" es).map ToolMode.ofValue?
  disabled := (Value.lookup "disabled" es).map Value.isTruthy

/-- What is reported about a tools value. -/
def toolsEvents (v : Value) : List Event :=
  if ToolRefs.isUnsupported v then [.toolsUnsupported v.typeName] else []

/-- What is reported about a tool mode. -/
def modeEvents (key : String) : Value → List Event
  | .null => []
  | v => if (ToolMode.ofValue? v).isSome then [] else [.unknownToolMode key v]

/-- What reading the entries reports: parameters first, then tools, then the mode. -/
def events (key : String) (es : List (Value × Value)) : List Event :=
  ((Value.lookup "parameters" es).toList.flatMap fun v =>
      (Parameters.fallbacks "" v).map Event.fallback)
    ++ (Value.lookup "tools" es).toList.flatMap toolsEvents
    ++ (Value.lookup "toolMode" es).toList.flatMap (modeEvents key)

/-- The fields that the overlay sets are the overlay's; references are merged. -/
def merge (base overlay : Declaration) : Declaration where
  key := base.key
  name := overlay.name.or base.name
  description := overlay.description.or base.description
  prompt := overlay.prompt.or base.prompt
  context := overlay.context.or base.context
  parameters := overlay.parameters.or base.parameters
  tools := ((ToolRefs.merge base.tools.join overlay.tools.join).map some).or base.tools
  toolMode := overlay.toolMode.or base.toolMode
  disabled := overlay.disabled.or base.disabled

end Declaration

namespace DeclarationSet

/-- The declarations of a document; entries that are no maps are left out. -/
def ofValue : Value → DeclarationSet
  | .map es => OrderedMap.ofEntries (es.filterMap fun (k, v) =>
    match v with
    | .map fields => some (k.display, Declaration.ofEntries k.display fields)
    | _ => none)
  | _ => []

/-- What reading a document from a source reports. -/
def events (source : String) : Value → List Event
  | .null => []
  | .map es => es.flatMap fun (k, v) =>
    match v with
    | .map fields => Declaration.events k.display fields
    | _ => [.entrySkipped source k]
  | v => [.documentNotMapping source v.typeName]

/-- The overlay's declarations merged into the base's. -/
def merge (base overlay : DeclarationSet) : DeclarationSet :=
  base.mergeWith Declaration.merge overlay

/-- What merging reports: the keys that both sets have. -/
def mergeEvents (base overlay : DeclarationSet) : List Event :=
  (overlay.keys.filter (· ∈ base.keys)).map .overridden

end DeclarationSet

end DeclaredTools
