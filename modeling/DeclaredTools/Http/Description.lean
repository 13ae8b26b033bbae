/-
  The description that the service gives of itself, in the OpenAPI format: what can be asked of it,
  and of what kind the parts of bodies and answers are.
-/
import DeclaredTools.Text.Case
import DeclaredTools.Value.Basic

namespace DeclaredTools.Http.Description

open Value (ofFields)

def info : List (String × Value) :=
  [("title", .text "ToolForge"),
    ("description", .text "Declarative tools compiled into schemas, validators and prompts"),
    ("version", .text "0.1.0")]

/-! ## Kinds of values -/

def reference (schema : String) : Value :=
  ofFields [("$ref", .text ("#/components/schemas/" ++ schema))]

def kind (name : String) : List (String × Value) := [("type", .text name)]

def titled (title : String) (fields : List (String × Value)) : Value :=
  ofFields (fields ++ [("title", .text title)])

def listOf (items : Value) : List (String × Value) := ("items", items) :: kind "array"

/-- A map of any values. -/
def anyMap : List (String × Value) := ("additionalProperties", .bool true) :: kind "object"

/-- A map with given entries. -/
structure Record where
  name : String
  purpose : Option String
  entries : List (String × Value)
  required : List String

namespace Record

def toValue (r : Record) : Value :=
  ofFields ([("properties", ofFields r.entries)] ++ kind "object"
    ++ (if r.required.isEmpty then [] else [("required", .list (r.required.map .text))])
    ++ [("title", .text r.name)]
    ++ (r.purpose.map fun p => ("description", Value.text p)).toList)

/-- All records by name. -/
def all : List Record := [
  { name := "HTTPValidationError"
    purpose := none
    entries := [("detail", titled "Detail" (listOf (reference "ValidationError")))]
    required := [] },
  { name := "PresetListResponse"
    purpose := some "Preset names available to the server."
    entries := [("presets", titled "Presets" (listOf (ofFields (kind "string"))))]
    required := ["presets"] },
  { name := "ToolCallRequest"
    purpose := some "Arguments for a tool call."
    entries := [("arguments", titled "Arguments" anyMap)]
    required := [] },
  { name := "ToolCallResponse"
    purpose := some "Rendered instruction text for a successful call."
    entries := [("name", titled "Name" (kind "string")), ("text", titled "Text" (kind "string")),
      ("arguments", titled "Arguments" anyMap)]
    required := ["name", "text", "arguments"] },
  { name := "ToolResponse"
    purpose := some "A registered tool and its advertised call signature."
    entries := [("name", titled "Name" (kind "string")),
      ("description", titled "Description" (kind "string")),
      ("input_schema", titled "Input Schema" anyMap)]
    required := ["name", "description", "input_schema"] },
  { name := "ValidationError"
    purpose := none
    entries := [
      ("loc", titled "Location" (listOf (ofFields
        [("anyOf", .list [ofFields (kind "string"), ofFields (kind "integer")])]))),
      ("msg", titled "Message" (kind "string")), ("type", titled "Error Type" (kind "string")),
      ("input", titled "Input" []), ("ctx", titled "Context" (kind "object"))]
    required := ["loc", "msg", "type"] }]

end Record

/-! ## Operations -/

/-- What an answer holds. -/
inductive AnswerForm where
  | any
  | one (schema : String)
  | several (schema : String)

/-- What can be asked of the service. -/
structure Operation where
  name : String
  path : String
  method : String
  tag : Option String
  purpose : String
  /-- The path holds the name of a tool. -/
  forTool : Bool
  /-- The schema of the body that has to be sent. -/
  body : Option String
  answer : AnswerForm

namespace Operation

/-- A name with blanks in the place of underscores, and capitals. -/
def headline (name : String) : String :=
  Text.title (name.map fun c => if c = '_' then ' ' else c)

/-- The name, the path and the method in one word. -/
def id (o : Operation) : String :=
  o.name ++ o.path.map (fun c => if c.isAlphanum then c else '_') ++ "_" ++ o.method

def content (schema : Value) : String × Value :=
  ("content", ofFields [("application/json", ofFields [("schema", schema)])])

def response (status text : String) (schema : Value) : String × Value :=
  (status, ofFields [("description", .text text), content schema])

def answerSchema (o : Operation) : Value :=
  match o.answer with
  | .any => .map []
  | .one schema => reference schema
  | .several schema =>
    titled (headline ("Response_" ++ o.id)) (kind "array" ++ [("items", reference schema)])

def parameters (o : Operation) : List (String × Value) :=
  if o.forTool then
    [("parameters", .list [ofFields [("name", .text "name"), ("in", .text "path"),
      ("required", .bool true), ("schema", titled "Name" (kind "string"))]])]
  else []

def requestBody (o : Operation) : List (String × Value) :=
  (o.body.map fun schema =>
    ("requestBody", ofFields [("required", .bool true), content (reference schema)])).toList

/-- The possible answers; a name or a body may be refused. -/
def responses (o : Operation) : Value :=
  ofFields (response "200" "Successful Response" o.answerSchema ::
    (if o.forTool then
      [response "422" "Validation Error" (reference "HTTPValidationError")]
    else []))

def toValue (o : Operation) : Value :=
  ofFields ((o.tag.map fun t => ("tags", Value.list [.text t])).toList
    ++ [("summary", .text (headline o.name)), ("description", .text o.purpose),
      ("operationId", .text o.id)]
    ++ o.parameters ++ o.requestBody ++ [("responses", o.responses)])

/-- All operations. -/
def all : List Operation := [
  ⟨"list_tools", "/api/v1/tools", "get", some "tools",
    "List every enabled tool with its input schema.", false, none, .several "ToolResponse"⟩,
  ⟨"get_tool", "/api/v1/tools/\x7bname\x7d", "get", some "tools",
    "Get a single tool by its registered name.", true, none, .one "ToolResponse"⟩,
  ⟨"call_tool", "/api/v1/tools/\x7bname\x7d/call", "post", some "tools",
    "Validate arguments and return the tool's rendered prompt.", true, some "ToolCallRequest",
    .one "ToolCallResponse"⟩,
  ⟨"list_presets", "/api/v1/presets", "get", some "presets",
    "List preset names that can be loaded.", false, none, .one "PresetListResponse"⟩,
  ⟨"root", "/", "get", none, "Service info endpoint.", false, none, .any⟩,
  ⟨"health", "/health", "get", none, "Health check endpoint.", false, none, .any⟩]

end Operation

/-- The whole description. -/
def value : Value :=
  ofFields [("openapi", .text "3.1.0"), ("info", ofFields info),
    ("paths", ofFields (Operation.all.map fun o =>
      (o.path, ofFields [(o.method, o.toValue)]))),
    ("components", ofFields [("schemas", ofFields (Record.all.map fun r =>
      (r.name, r.toValue)))])]

end DeclaredTools.Http.Description
