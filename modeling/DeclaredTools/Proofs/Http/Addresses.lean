/-
  Addresses of tools. The service lists tools by their names, and whoever asks for a listed tool at
  its address gets the listed object, or calls the tool. Only names that are segments have
  addresses: an empty name and a name with a slash are listed and lead nowhere
  (`listed_addressable_iff`).

  That a tool is listed says that its schema can travel. For this reason the arguments in the answer
  to a call, of which the defaults stand in the schema, can travel too.
-/
import DeclaredTools.Proofs.Http.Routes
import DeclaredTools.Proofs.Http.Travelling
import DeclaredTools.Proofs.Registry.Snapshot

namespace DeclaredTools

/-- All arguments that the tool accepts of the given ones have texts. -/
def Tool.HasTexts (tool : Tool) (arguments : Arguments) : Prop :=
  ∀ accepted, tool.validate (.map arguments) = .ok (.map accepted) → arePrintable accepted = true

namespace Http

open OrderedMap Result

/-! ## Listed objects -/

/-- The object of a tool with the wire form of its schema. -/
def toolObject (tool : Tool) (schema : Value) : Value :=
  .ofFields [("name", .text tool.name), ("description", .text tool.description),
    ("input_schema", schema)]

theorem get?_toolObject (tool : Tool) (schema : Value) :
    (toolObject tool schema).get? "name" = some (.text tool.name) := rfl

/-- A tool travels with all of its entries, whose names differ. -/
theorem plain_toValue (tool : Tool) :
    plain tool.toValue = (plain tool.inputSchema.toValue).map (toolObject tool) := by
  rw [Tool.toValue, Value.ofFields]
  simp only [List.map_cons, List.map_nil, plain, plainEntries, nameOf]
  cases plain tool.inputSchema.toValue with
  | error e => rfl
  | ok schema =>
    show Except.ok (Value.map (Value.ofEntries [(.text "name", .text tool.name),
      (.text "description", .text tool.description), (.text "input_schema", schema)])) = _
    simp [Value.ofEntries, Value.insertEntry, Value.same, Value.sameAtom, Except.map, toolObject,
      Value.ofFields]

namespace Service

theorem travelling_eq_ok_iff {v w : Value} : travelling v = .ok w ↔ plain v = .ok w := by
  unfold travelling
  cases plain v <;> simp

theorem ofValue_inj {v w : Value} (h : ofValue v = ofValue w) : v = w :=
  Payload.value.inj (Response.mk.inj h).2

/-- The value is the object of the tool as it travels. -/
def Shows (tool : Tool) (v : Value) : Prop :=
  ∃ schema, plain tool.inputSchema.toValue = .ok schema ∧ v = toolObject tool schema

theorem travelling_toValue_eq_ok_iff {tool : Tool} {v : Value} :
    travelling tool.toValue = .ok v ↔ Shows tool v := by
  rw [travelling_eq_ok_iff, plain_toValue, Shows]
  constructor
  · intro h
    obtain ⟨schema, hschema, rfl⟩ := map_eq_ok h
    exact ⟨schema, hschema, rfl⟩
  · rintro ⟨schema, hschema, rfl⟩
    rw [hschema]
    rfl

theorem get?_of_shows {tool : Tool} {v : Value} (h : Shows tool v) :
    v.get? "name" = some (.text tool.name) := by
  obtain ⟨schema, _, rfl⟩ := h
  exact get?_toolObject tool schema

theorem name_of_get?_table {set : DeclarationSet} {name : String} {tool : Tool}
    (h : set.table.get? name = some tool) : tool.name = name := by
  obtain ⟨d, ⟨_, hname, _⟩, rfl⟩ := DeclarationSet.offers_of_get?_table h
  exact hname

theorem name_of_find {set : DeclarationSet} {name : String} {tool : Tool}
    (h : set.table.find name = .ok tool) : tool.name = name := by
  unfold ToolTable.find at h
  split at h
  · next found hfound =>
    rw [← Except.ok.inj h]
    exact name_of_get?_table hfound
  · cases h

theorem get?_table_of_mem {set : DeclarationSet} {tool : Tool}
    (h : tool ∈ set.table.map (·.2)) : set.table.get? tool.name = some tool := by
  obtain ⟨⟨name, other⟩, hmem, rfl⟩ := List.mem_map.1 h
  have hget : set.table.get? name = some other :=
    get?_eq_some_of_mem (nodup_keys_ofEntries _) hmem
  rw [name_of_get?_table hget]
  exact hget

/-! ## Requests -/

variable {s : Service} {path : String} {body : Option String}

theorem respond_of_route {method : String} {route : Route}
    (hroute : Route.ofPath? path = some route) (hmethod : route.methods.contains method = true) :
    s.respond method path body = s.answer route body := by
  rw [respond, hroute]
  exact if_pos hmethod

theorem ofPath?_list : Route.ofPath? (received "/api/v1/tools") = some .tools := by
  decide +kernel

/-- A good response comes from a route. -/
theorem exists_route_of_respond {method : String} {v : Value}
    (h : s.respond method path body = .ok (ofValue v)) :
    ∃ route, Route.ofPath? path = some route ∧ route.methods.contains method = true ∧
      s.answer route body = .ok (ofValue v) := by
  have hstatus : ∀ (status : Nat) (w : Value), status ≠ 200 → detail status w ≠ ofValue v :=
    fun status w hne heq => hne (congrArg Response.status heq)
  unfold respond at h
  cases hroute : Route.ofPath? path with
  | none =>
    rw [hroute] at h
    dsimp only at h
    split at h
    · exact nomatch congrArg Response.status (Except.ok.inj h)
    · exact absurd (Except.ok.inj h) (hstatus 404 _ (by decide))
  | some route =>
    rw [hroute] at h
    dsimp only at h
    split at h
    · next hmethod => exact ⟨route, rfl, hmethod, h⟩
    · exact absurd (Except.ok.inj h) (hstatus 405 _ (by decide))

/-! ## Tools of a compiled registry -/

/-- What is served well was found. -/
theorem ok_of_served {α : Type} {r : Except CallError α} {answer : α → Answering} {v : Value}
    (h : served r answer = .ok (ofValue v)) : ∃ a, r = .ok a ∧ answer a = .ok (ofValue v) := by
  unfold served at h
  split at h
  · exact ⟨_, rfl, h⟩
  · exact nomatch congrArg Response.status (Except.ok.inj h)
  · cases h

/-- The response to a call of a tool with this answer: the prompt, with the accepted arguments as
they travel, or the issues, of which there is at least one. -/
inductive Returns (name : String) : Answer → Response → Prop
  | prompt {text : String} {accepted arguments : Value} (travels : plain accepted = .ok arguments) :
    Returns name (.prompt text accepted)
      ⟨200, .value (.ofFields [("name", .text name), ("text", .text text),
        ("arguments", arguments)])⟩
  | rejected {issues : List Issue} (explained : issues ≠ []) :
    Returns name (.rejected issues)
      ⟨422, .value (.ofFields [("detail", .ofFields
        [("message", .text ("Invalid arguments for tool '" ++ name ++ "'")),
          ("issues", .list (issues.map issueValue))])])⟩

section

variable {set : DeclarationSet} (htools : s.registry.tools.outcome = .ok set.table)

include htools

theorem outcome_get_of_tools (name : String) :
    (s.registry.get name).outcome = set.table.find name := by
  rw [Registry.outcome_get, htools]
  rfl

/-- Every listed object is that of a tool. -/
theorem exists_tool_of_tools {vs : List Value} {v : Value}
    (h : tools s.registry = .ok (ofValue (.list vs))) (hv : v ∈ vs) :
    ∃ tool, set.table.get? tool.name = some tool ∧ Shows tool v := by
  rw [tools, Registry.outcome_list, htools] at h
  obtain ⟨ws, hws, heq⟩ := map_eq_ok h
  obtain rfl : ws = vs := Value.list.inj (ofValue_inj heq)
  obtain ⟨tool, htool, hobject⟩ := exists_of_forall₂_of_mem (forall₂_of_mapM_eq_ok hws) hv
  exact ⟨tool, get?_table_of_mem htool, travelling_toValue_eq_ok_iff.1 hobject⟩

theorem tool_eq_ok {tool : Tool} {v : Value} (hget : set.table.get? tool.name = some tool)
    (hshows : Shows tool v) : Service.tool s.registry tool.name = .ok (ofValue v) := by
  rw [Service.tool, outcome_get_of_tools htools, ToolTable.find_eq_ok hget]
  show (travelling tool.toValue).map ofValue = _
  rw [travelling_toValue_eq_ok_iff.2 hshows]
  rfl

/-- Only the tool itself is shown under its name. -/
theorem route_of_get_named {route : Route} {v : Value} {name : String}
    (hmethod : route.methods.contains "GET" = true) (h : s.answer route body = .ok (ofValue v))
    (hname : v.get? "name" = some (.text name)) : route = .tool name := by
  -- no other object than that of a tool has a name
  have hnone : ∀ w : Value, w.get? "name" = none → ofValue w ≠ ofValue v := by
    intro w hw heq
    rw [ofValue_inj heq, hname] at hw
    cases hw
  cases route with
  | about => exact absurd (Except.ok.inj h) (hnone _ rfl)
  | health => exact absurd (Except.ok.inj h) (hnone _ rfl)
  | tools =>
    obtain ⟨tools, _, hanswer⟩ := ok_of_served h
    obtain ⟨vs, _, heq⟩ := map_eq_ok hanswer
    exact absurd heq (hnone _ rfl)
  | tool other =>
    obtain ⟨tool, hget, hanswer⟩ := ok_of_served h
    obtain ⟨w, hw, heq⟩ := map_eq_ok hanswer
    rw [outcome_get_of_tools htools] at hget
    have hshown := get?_of_shows (travelling_toValue_eq_ok_iff.1 hw)
    rw [ofValue_inj heq, hname, name_of_find hget] at hshown
    rw [Value.text.inj (Option.some.inj hshown)]
  | call other => exact absurd hmethod (by simp [Route.methods])
  | presets =>
    unfold answer presets at h
    dsimp only at h
    split at h
    · exact absurd (Except.ok.inj h) (hnone _ rfl)
    · cases h
  | description => exact absurd (Except.ok.inj h) (hnone _ rfl)
  | manual =>
    exact nomatch Except.ok.inj h

/-- A call whose accepted arguments, if there are any, have texts is answered. -/
theorem exists_returns {tool : Tool} {v : Value} {arguments : Arguments}
    (hget : set.table.get? tool.name = some tool) (hshows : Shows tool v)
    (hread : (readBody body).bind argumentsOf = .ok arguments) (htexts : tool.HasTexts arguments) :
    ∃ answer response, (s.registry.invoke tool.name (.map arguments)).outcome = .ok answer ∧
      Service.call s.registry tool.name body = .ok response ∧
      Returns tool.name answer response := by
  have hinvoke : (s.registry.invoke tool.name (.map arguments)).outcome =
      tool.call (.map arguments) := by
    rw [Registry.outcome_invoke, outcome_get_of_tools htools, ToolTable.find_eq_ok hget]
    rfl
  have hserved : ∀ answer, tool.call (.map arguments) = .ok answer →
      Service.call s.registry tool.name body = answered tool.name answer := by
    intro answer hanswer
    rw [Service.call, hread]
    dsimp only
    rw [hinvoke, hanswer]
    rfl
  rw [hinvoke]
  cases hresult : tool.validate (.map arguments) with
  | error issues =>
    have hcall := Tool.call_of_rejected hresult
    exact ⟨_, _, hcall, hserved _ hcall, .rejected (Tool.issues_ne_nil hresult)⟩
  | ok out =>
    obtain ⟨entries, rfl, hprompt⟩ :=
      Tool.exists_entries_of_validate_eq_ok hresult tool.declaration
    rw [htexts entries hresult] at hprompt
    obtain ⟨text, htext⟩ := isOk_eq_true_iff.1 hprompt
    have hcall := Tool.call_of_accepted hresult htext
    obtain ⟨schema, hschema, _⟩ := hshows
    have htravels : (Value.map entries).travels = true :=
      Parameters.travels_of_validate_eq_ok (isOk_eq_true_iff.2 ⟨schema, hschema⟩)
        (Bool.and_eq_true_iff.1 (areReadableEntries_of_argumentsOf hread)).1 hresult
    obtain ⟨accepted, haccepted⟩ := isOk_eq_true_iff.1 htravels
    refine ⟨_, _, hcall, (hserved _ hcall).trans ?_, .prompt haccepted⟩
    rw [answered, travelling_eq_ok_iff.2 haccepted]
    rfl

end

/-! ## Addresses -/

/-- What the service has at the addresses of a listed tool, of which `v` is the object. Targets are
told apart by the paths that the service receives for them. -/
structure Addressed (s : Service) (tool : Tool) (v : Value) : Prop where
  named : v.get? "name" = some (.text tool.name)
  found : (s.registry.get tool.name).outcome = .ok tool
  /-- The object has an address exactly if the name is a segment. -/
  shown_iff : (∃ target body, s.handle ⟨"GET", target, body⟩ = .ok (ofValue v)) ↔
    IsSegment tool.name
  /-- The tool has an address for calls exactly if the name is a segment. -/
  called_iff : (∃ target, Route.ofPath? (received target) = some (.call tool.name)) ↔
    IsSegment tool.name
  get : IsSegment tool.name → ∀ target body, received target = toolPath tool.name →
    s.handle ⟨"GET", target, body⟩ = .ok (ofValue v)
  /-- A call is answered if its accepted arguments have texts. -/
  call : IsSegment tool.name → ∀ target body arguments, received target = callPath tool.name →
    (readBody body).bind argumentsOf = .ok arguments → tool.HasTexts arguments →
      ∃ answer response, (s.registry.invoke tool.name (.map arguments)).outcome = .ok answer ∧
        s.handle ⟨"POST", target, body⟩ = .ok response ∧ Returns tool.name answer response
  /-- Texts can be missing only for the declared defaults. -/
  texts : tool.parameters.shape.all Shape.hasJsonDefault = true → ∀ body arguments,
    (readBody body).bind argumentsOf = .ok arguments → tool.HasTexts arguments
  /-- To put the name behind percent signs is enough. -/
  arrives : received (toolPath (escaped tool.name)) = toolPath tool.name ∧
    received (callPath (escaped tool.name)) = callPath tool.name

theorem addressed {set : DeclarationSet} (htools : s.registry.tools.outcome = .ok set.table)
    {tool : Tool} {v : Value} (hget : set.table.get? tool.name = some tool)
    (hshows : Shows tool v) : Addressed s tool v := by
  have hfound : (s.registry.get tool.name).outcome = .ok tool := by
    rw [outcome_get_of_tools htools, ToolTable.find_eq_ok hget]
  have hshown : IsSegment tool.name → ∀ target body, received target = toolPath tool.name →
      s.handle ⟨"GET", target, body⟩ = .ok (ofValue v) := by
    intro hsegment target body hpath
    rw [handle, hpath, respond_of_route (Route.ofPath?_toolPath hsegment) (by simp [Route.methods])]
    exact tool_eq_ok htools hget hshows
  obtain ⟨htool, hcall⟩ := received_escaped tool.name
  constructor
  case named => exact get?_of_shows hshows
  case found => exact hfound
  case shown_iff =>
    constructor
    · rintro ⟨target, body, h⟩
      obtain ⟨route, hroute, hmethod, hanswer⟩ := exists_route_of_respond h
      rw [route_of_get_named htools hmethod hanswer (get?_of_shows hshows)] at hroute
      exact (Route.exists_toolRoute_iff tool.name).1 ⟨_, hroute⟩
    · intro hsegment
      exact ⟨_, none, hshown hsegment _ none htool⟩
  case called_iff =>
    constructor
    · rintro ⟨target, hroute⟩
      exact (Route.exists_callRoute_iff tool.name).1 ⟨_, hroute⟩
    · intro hsegment
      refine ⟨_, (congrArg Route.ofPath? hcall).trans ?_⟩
      exact Route.ofPath?_callPath hsegment
  case get => exact hshown
  case call =>
    intro hsegment target body arguments hpath hread htexts
    obtain ⟨answer, response, hanswer, hresponse, hreturns⟩ :=
      exists_returns htools hget hshows hread htexts
    refine ⟨answer, response, hanswer, ?_, hreturns⟩
    rw [handle, hpath, respond_of_route (Route.ofPath?_callPath hsegment) (by simp [Route.methods])]
    exact hresponse
  case texts =>
    intro hdefaults body arguments hread accepted haccepted
    obtain ⟨hjson, hshort⟩ := Bool.and_eq_true_iff.1 (areReadableEntries_of_argumentsOf hread)
    exact Tool.arePrintable_of_isJson hdefaults hjson hshort haccepted
  case arrives => exact ⟨htool, hcall⟩

/-- A list of tools is that of a compiled registry. -/
theorem tools_of_handle {vs : List Value}
    (h : s.handle ⟨"GET", "/api/v1/tools", none⟩ = .ok (ofValue (.list vs))) :
    tools s.registry = .ok (ofValue (.list vs)) ∧
      ∃ table, s.registry.tools.outcome = .ok table := by
  have hlisted : tools s.registry = .ok (ofValue (.list vs)) := by
    rw [handle, respond_of_route ofPath?_list (by decide)] at h
    exact h
  refine ⟨hlisted, ?_⟩
  obtain ⟨listed, hok, _⟩ := ok_of_served hlisted
  rw [Registry.outcome_list] at hok
  obtain ⟨table, htable, _⟩ := map_eq_ok hok
  exact ⟨table, htable⟩

/-- **Which listed tools can be addressed.** Whatever a registry was asked before, and whatever
declarations were merged into it, every object that the service lists is that of a tool of the
registry. Its object can be asked for, and the tool can be called, exactly if its name is a
segment; then every target that arrives at the address gets the listed object, or the answer that
the registry has to the call. -/
theorem listed_addressable_iff {s : Service} {set : DeclarationSet} {actions : List Action}
    (hregistry : s.registry = (Registry.ofSet set).run actions) {vs : List Value}
    (hlist : s.handle ⟨"GET", "/api/v1/tools", none⟩ = .ok (ofValue (.list vs))) {v : Value}
    (hv : v ∈ vs) : ∃ tool, Addressed s tool v := by
  obtain ⟨hlisted, table, htable⟩ := tools_of_handle hlist
  -- the tools are those of the declarations that were compiled, whenever that was
  have htools : s.registry.tools.outcome = .ok (set.snapshot actions).table := by
    rw [hregistry, Registry.outcome_tools_run, ToolTable.outcome_compile] at htable ⊢
    cases hobstacle : (set.snapshot actions).obstacle with
    | none => rfl
    | some e =>
      rw [hobstacle] at htable
      cases htable
  obtain ⟨tool, hget, hshows⟩ := exists_tool_of_tools htools hlisted hv
  exact ⟨tool, addressed htools hget hshows⟩

/-- A tool with a prompt, which takes nothing. -/
private def prompted (name : String) : Declaration :=
  .ofEntries name [(.text "prompt", .text "x")]

/-- A service that has no other tool. -/
private def serviceOf (name : String) : Service :=
  ⟨.ofSet [(name, prompted name)], ⟨⟨[], []⟩, .insertion, ⟨[]⟩⟩⟩

private def objectOf (name : String) : Value :=
  toolObject (.ofDeclaration (prompted name))
    (.ofFields [("type", .text "object"), ("properties", .map [])])

private theorem shows_objectOf (name : String) :
    Shows (.ofDeclaration (prompted name)) (objectOf name) := by
  have hschema : (Tool.ofDeclaration (prompted name)).inputSchema.toValue =
      .ofFields [("type", .text "object"), ("properties", .map [])] := rfl
  refine ⟨_, ?_, rfl⟩
  rw [hschema]
  simp [Value.ofFields, plain, plainEntries, nameOf, bind, Except.bind, pure, Except.pure,
    Except.map, Value.ofEntries, Value.insertEntry, Value.same, Value.sameAtom]

private theorem outcome_tools_serviceOf {name : String} (h : ModelName.isSound name = true) :
    (serviceOf name).registry.tools.outcome =
      .ok (DeclarationSet.table [(name, prompted name)]) := by
  have hobstacle : (prompted name).activeObstacle = none :=
    (prompted name).obstacle_eq_none_iff.2 ⟨h, rfl⟩
  rw [serviceOf, Registry.outcome_tools_ofSet, DeclarationSet.obstacle_singleton, hobstacle]
  rfl

private theorem table_prompted (name : String) :
    DeclarationSet.table [(name, prompted name)] =
      [(name, .ofDeclaration (prompted name))] := by
  rw [DeclarationSet.table_singleton]
  rfl

private theorem handle_list_serviceOf {name : String} (h : ModelName.isSound name = true) :
    (serviceOf name).handle ⟨"GET", "/api/v1/tools", none⟩ =
      .ok (ofValue (.list [objectOf name])) := by
  have hshown : ∀ tool ∈ [Tool.ofDeclaration (prompted name)],
      travelling tool.toValue = .ok (objectOf name) := by
    intro tool htool
    rw [List.mem_singleton.1 htool]
    exact travelling_toValue_eq_ok_iff.2 (shows_objectOf name)
  rw [handle, respond_of_route ofPath?_list (by decide)]
  show tools (serviceOf name).registry = _
  rw [tools, Registry.outcome_list, outcome_tools_serviceOf h, table_prompted]
  simp only [Except.map, served, List.map_cons, List.map_nil, mapM_eq_ok hshown]

private theorem arguments_of_empty :
    (readBody (some "\x7b\x7d")).bind argumentsOf = .ok [] := by
  have hempty : ((readBody (some "\x7b\x7d")).bind argumentsOf).toOption.any List.isEmpty =
      true := by decide +kernel
  obtain ⟨arguments, harguments, hnil⟩ := (Option.any_eq_true _ _).1 hempty
  rw [eq_ok_of_toOption harguments, List.isEmpty_iff.1 hnil]

theorem listed_addressable_iff_percent :
    (serviceOf "5% off").registry = (Registry.ofSet [("5% off", prompted "5% off")]).run [] ∧
    (serviceOf "5% off").handle ⟨"GET", "/api/v1/tools", none⟩ =
      .ok (ofValue (.list [objectOf "5% off"])) ∧
    (serviceOf "5% off").handle ⟨"GET", "/api/v1/tools/5%25%20off", none⟩ =
      .ok (ofValue (objectOf "5% off")) ∧
    ∃ answer response, (serviceOf "5% off").handle
        ⟨"POST", "/api/v1/tools/5%25%20off/call", some "\x7b\x7d"⟩ = .ok response ∧
      Returns "5% off" answer response := by
  have hregistry : (serviceOf "5% off").registry =
      (Registry.ofSet [("5% off", prompted "5% off")]).run [] := rfl
  have hlist : (serviceOf "5% off").handle ⟨"GET", "/api/v1/tools", none⟩ =
      .ok (ofValue (.list [objectOf "5% off"])) := handle_list_serviceOf (by decide)
  obtain ⟨tool, haddressed⟩ := listed_addressable_iff hregistry hlist (List.mem_singleton.2 rfl)
  obtain rfl : tool = .ofDeclaration (prompted "5% off") := by
    have hfound := haddressed.found
    have hname : tool.name = "5% off" :=
      (Value.text.inj (Option.some.inj haddressed.named)).symm
    rw [hname, outcome_get_of_tools (outcome_tools_serviceOf (by decide)),
      table_prompted] at hfound
    exact (Except.ok.inj hfound).symm
  have hsegment : IsSegment "5% off" := ⟨by decide, by decide⟩
  have htool : received "/api/v1/tools/5%25%20off" = toolPath "5% off" := by decide +kernel
  have hcall : received "/api/v1/tools/5%25%20off/call" = callPath "5% off" := by decide +kernel
  have htexts := haddressed.texts (by decide) _ _ arguments_of_empty
  obtain ⟨answer, response, _, hresponse, hreturns⟩ :=
    haddressed.call hsegment _ _ _ hcall arguments_of_empty htexts
  exact ⟨hregistry, hlist, haddressed.get hsegment _ none htool, answer, response, hresponse,
    hreturns⟩

/-- A tool with a slash in its name is listed, and it is not found under its name. -/
theorem slashed_not_addressable :
    (serviceOf "a/b").handle ⟨"GET", "/api/v1/tools", none⟩ =
      .ok (ofValue (.list [objectOf "a/b"])) ∧
    (objectOf "a/b").get? "name" = some (.text "a/b") ∧
    (serviceOf "a/b").handle ⟨"GET", "/api/v1/tools/a%2Fb", none⟩ =
      .ok (detail 404 (.text "Not Found")) ∧
    (serviceOf "a/b").handle ⟨"POST", "/api/v1/tools/a%2Fb/call", some "\x7b\x7d"⟩ =
      .ok (detail 404 (.text "Not Found")) ∧
    ∀ target body, (serviceOf "a/b").handle ⟨"GET", target, body⟩ ≠
      .ok (ofValue (objectOf "a/b")) := by
  have hsound : ModelName.isSound "a/b" = true := by decide
  have hget : (DeclarationSet.table [("a/b", prompted "a/b")]).get? "a/b" =
      some (.ofDeclaration (prompted "a/b")) := by
    rw [table_prompted]
    rfl
  have htool : Route.ofPath? (received "/api/v1/tools/a%2Fb") = none ∧
      Route.onward? (received "/api/v1/tools/a%2Fb") = none := by decide +kernel
  have hcall : Route.ofPath? (received "/api/v1/tools/a%2Fb/call") = none ∧
      Route.onward? (received "/api/v1/tools/a%2Fb/call") = none := by decide +kernel
  have haddressed := addressed (outcome_tools_serviceOf hsound) hget (shows_objectOf "a/b")
  refine ⟨handle_list_serviceOf hsound, rfl, ?_, ?_, fun target body h => ?_⟩
  · rw [handle, respond, htool.1, htool.2]
  · rw [handle, respond, hcall.1, hcall.2]
  · exact (haddressed.shown_iff.1 ⟨target, body, h⟩).whole (by decide)

end Service

end Http

end DeclaredTools
