/-
  Tool references: the tools that a declaration tells its caller to use. They are written as names
  between commas, or as a map from names to what is said about each tool.
-/
import DeclaredTools.OrderedMap
import DeclaredTools.Shape.Reading
import DeclaredTools.Text.Blank

namespace DeclaredTools

/-- What is said about one tool. A field is set or not, and a set text may be null. -/
structure RefEntry where
  description : Option (Option String)
  prompt : Option (Option String)
  optional : Option Bool
  deriving DecidableEq

/-- References in the order of their names; compact ones are written as names between commas. -/
structure ToolRefs where
  entries : OrderedMap RefEntry
  compact : Bool
  deriving DecidableEq

namespace RefEntry

/-- The entry of a tool of which only the name is given. -/
def bare : RefEntry := ⟨some (some ""), some (some ""), some false⟩

/-- The entry of a tool of which only a description is given. -/
def described (description : String) : RefEntry := ⟨some (some description), none, none⟩

/-- The entry that a value under a tool's name describes. -/
def ofValue : Value → RefEntry
  | .text s => described s
  | .map es =>
    ⟨(Value.lookup "description" es).map Shape.textOf, (Value.lookup "prompt" es).map Shape.textOf,
      (Value.lookup "optional" es).map Value.isTruthy⟩
  | _ => described ""

/-- The fields that the overlay sets are the overlay's, the others the base's. -/
def merge (base overlay : RefEntry) : RefEntry :=
  ⟨overlay.description.or base.description, overlay.prompt.or base.prompt,
    overlay.optional.or base.optional⟩

private def textValue : Option String → Value
  | some s => .text s
  | none => .null

/-- The fields that are set. -/
def toValue (e : RefEntry) : Value :=
  Value.ofFields ((e.description.map fun d => ("description", textValue d)).toList
    ++ (e.prompt.map fun p => ("prompt", textValue p)).toList
    ++ (e.optional.map fun o => ("optional", .bool o)).toList)

end RefEntry

namespace ToolRefs

/-- Compact references to the named tools. -/
def ofNames (names : List String) : ToolRefs :=
  ⟨OrderedMap.ofEntries (names.map fun n => (n, .bare)), true⟩

def names (refs : ToolRefs) : List String := refs.entries.keys

/-- The references that a value describes: none, names between commas, or a map. -/
def ofValue? : Value → Option ToolRefs
  | .text s => some (ofNames (Text.commaPieces s))
  | .map es =>
    some ⟨OrderedMap.ofEntries (es.map fun (k, v) => (k.display, RefEntry.ofValue v)), false⟩
  | _ => none

/-- A value that is present and describes no references. -/
def isUnsupported : Value → Bool
  | .null => false
  | .text _ => false
  | .map _ => false
  | _ => true

/-- The written form: names between commas, or a map. -/
def toValue (refs : ToolRefs) : Value :=
  if refs.compact then .text (", ".intercalate refs.names)
  else Value.ofFields (refs.entries.map fun (n, e) => (n, e.toValue))

/-- Names between commas without any name. -/
def isBlank (refs : ToolRefs) : Bool := refs.compact && refs.names.all (· == "")

/-- References, unless they are blank. -/
def unlessBlank (refs : Option ToolRefs) : Option ToolRefs := refs.filter (!·.isBlank)

/-- The overlay's entries merged into the base's. -/
def mergeEntries (base overlay : OrderedMap RefEntry) : OrderedMap RefEntry :=
  base.mergeWith RefEntry.merge overlay

/-- Both references merged; two compact ones stay compact, and blank ones count as absent. -/
def merge (base overlay : Option ToolRefs) : Option ToolRefs :=
  match unlessBlank base, unlessBlank overlay with
  | none, none => none
  | none, some o => some o
  | some b, none => some b
  | some b, some o =>
    if b.compact && o.compact then some (ofNames (b.names ++ o.names))
    else some ⟨mergeEntries b.entries o.entries, false⟩

end ToolRefs

/-- A tool as a prompt lists it. -/
structure ListedTool where
  name : String
  description : String
  prompt : String
  optional : Bool
  deriving DecidableEq

namespace ToolRefs

/-- The tools to list; what is not said is empty. -/
def listed (refs : Option ToolRefs) : List ListedTool :=
  match refs with
  | none => []
  | some refs => refs.entries.map fun (n, e) =>
    ⟨n, e.description.join.getD "", e.prompt.join.getD "", e.optional.getD false⟩

end ToolRefs

end DeclaredTools
