/-
  The service: tools and presets over HTTP.
-/
import DeclaredTools.Http.Body
import DeclaredTools.Http.Description
import DeclaredTools.Http.Target
import DeclaredTools.Startup
import DeclaredTools.Text.Blank

namespace DeclaredTools.Http

/-- A request as it comes over the wire. -/
structure Request where
  method : String
  target : String
  body : Option String

/-- What a response holds. -/
inductive Payload where
  | value (v : Value)
  /-- A page for people to read. -/
  | page
  /-- The path to go on to. -/
  | place (path : String)
  | nothing

structure Response where
  status : Nat
  payload : Payload

/-- Why a request has no response. -/
inductive ServiceError where
  | load (e : LoadError)
  | call (e : CallError)
  | body (f : BodyFault)

def ServiceError.message : ServiceError → String
  | .load e => e.message
  | .call e => e.message
  | .body f => f.message

/-- What the service has to offer. -/
inductive Route where
  | about
  | health
  | tools
  | tool (name : String)
  | call (name : String)
  | presets
  /-- What describes the service to programs. -/
  | description
  /-- What describes the service to people. -/
  | manual
  deriving DecidableEq

namespace Route

/-- The route of a path in segments. -/
def ofSegments? : List String → Option Route
  | ["", ""] => some .about
  | ["", "health"] => some .health
  | ["", "docs"] => some .manual
  | ["", "docs", "oauth2-redirect"] => some .manual
  | ["", "redoc"] => some .manual
  | ["", "openapi.json"] => some .description
  | ["", "api", "v1", "tools"] => some .tools
  | ["", "api", "v1", "presets"] => some .presets
  | ["", "api", "v1", "tools", name] => if name = "" then none else some (.tool name)
  | ["", "api", "v1", "tools", name, "call"] => if name = "" then none else some (.call name)
  | _ => none

def segments (path : String) : List String := (Text.splitOn '/' path.toList).map String.ofList

/-- The route of a path; a line feed at its end does not count, unless it belongs to
the name of a tool. -/
def ofPath? (path : String) : Option Route :=
  (ofSegments? (segments path)).or
    (if path.toList.getLast? = some '\n' then
      ofSegments? (segments (String.ofList path.toList.dropLast))
    else none)

/-- A path without the slashes at its end. -/
def withoutSlashes (path : String) : String :=
  String.ofList (path.toList.reverse.dropWhile (· = '/')).reverse

/-- The path to which one without a route leads: without its slashes at the end, if that has one. -/
def onward? (path : String) : Option String :=
  let shorter := withoutSlashes path
  if shorter ≠ path && (ofPath? shorter).isSome then some shorter else none

/-- The methods that a route answers. -/
def methods : Route → List String
  | .call _ => ["POST"]
  | .description => ["GET", "HEAD"]
  | .manual => ["GET", "HEAD"]
  | _ => ["GET"]

end Route

/-- The registry and what it was loaded with. -/
structure Service where
  registry : Registry
  loader : Loader

namespace Service

/-- The service over a registry. -/
def ofRegistry (around : Surroundings) (registry : Registry) : Except Failure Service := do
  return ⟨registry, around.loader (← around.settings)⟩

/-- The service that the settings describe. -/
def start (around : Surroundings) : Except Failure Service := do
  ofRegistry around (← around.registry)

abbrev Answering := Except ServiceError Response

def ofValue (v : Value) : Response := ⟨200, .value v⟩

def detail (status : Nat) (v : Value) : Response := ⟨status, .value (.ofFields [("detail", v)])⟩

def version : String × Value := ("version", .text "0.1.0")

def about : Response := ofValue (.ofFields [("service", .text "toolforge"), version])

def health : Response :=
  ofValue (.ofFields [("status", .text "healthy"), ("service", .text "toolforge"), version])

/-- A value as it travels. -/
def travelling (v : Value) : Except ServiceError Value :=
  match plain v with
  | .ok v => .ok v
  | .error f => .error (.body f)

/-- What comes of a call to the registry; a name without a tool is not found. -/
def served {α : Type} (r : Except CallError α) (answer : α → Answering) : Answering :=
  match r with
  | .ok a => answer a
  | .error (.notFound name) => .ok (detail 404 (.text (CallError.message (.notFound name))))
  | .error e => .error (.call e)

def tools (r : Registry) : Answering :=
  served r.list.outcome fun tools =>
    (tools.mapM fun tool => travelling tool.toValue).map fun vs => ofValue (.list vs)

def tool (r : Registry) (name : String) : Answering :=
  served (r.get name).outcome fun tool => (travelling tool.toValue).map ofValue

def presets (l : Loader) : Answering :=
  match l.available.outcome with
  | .ok names => .ok (ofValue (.ofFields [("presets", .list (names.map .text))]))
  | .error e => .error (.load e)

def issueValue (issue : Issue) : Value :=
  .ofFields [("path", .text issue.pathText), ("message", .text issue.cause.message),
    ("code", .text issue.cause.code)]

/-- The answer to a call of a tool. -/
def answered (name : String) : Answer → Answering
  | .prompt text arguments => do
    return ofValue (.ofFields [("name", .text name), ("text", .text text),
      ("arguments", ← travelling arguments)])
  | .rejected issues =>
    .ok (detail 422 (.ofFields [("message", .text ("Invalid arguments for tool '" ++ name ++ "'")),
      ("issues", .list (issues.map issueValue))]))

def refused (issue : BodyIssue) : Answering :=
  match issue.fault? with
  | some (.longInteger _) => .ok (detail 400 (.text "There was an error parsing the body"))
  | some .surrogate => .error (.body .surrogate)
  | _ =>
    match issue.report with
    | .ok v => .ok (detail 422 (.list [v]))
    | .error f => .error (.body f)

/-- Calls a tool with the arguments in a body. -/
def call (r : Registry) (name : String) (body : Option String) : Answering :=
  match (readBody body).bind argumentsOf with
  | .error issue => refused issue
  | .ok arguments => served (r.invoke name (.map arguments)).outcome (answered name)

def answer (s : Service) (route : Route) (body : Option String) : Answering :=
  match route with
  | .about => .ok about
  | .health => .ok health
  | .tools => tools s.registry
  | .tool name => tool s.registry name
  | .call name => call s.registry name body
  | .presets => presets s.loader
  | .description => .ok (ofValue Description.value)
  | .manual => .ok ⟨200, .page⟩

/-- Answers a request for a path as it is received. -/
def respond (s : Service) (method path : String) (body : Option String) : Answering :=
  match Route.ofPath? path with
  | some route =>
    if route.methods.contains method then s.answer route body
    else .ok (detail 405 (.text "Method Not Allowed"))
  | none =>
    match Route.onward? path with
    | some place => .ok ⟨307, .place place⟩
    | none => .ok (detail 404 (.text "Not Found"))

/-- Answers a request that comes over the wire. -/
def handle (s : Service) (q : Request) : Answering :=
  s.respond q.method (received q.target) q.body

end Service

end DeclaredTools.Http
