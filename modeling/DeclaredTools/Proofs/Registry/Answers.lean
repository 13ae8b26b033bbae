/-
  What a registry answers. Requests do not influence one another: each has the outcome that it would
  have as the first (`outcomes_replies`). To each there is an answer that is due: tools are listed
  and found exactly under the names that enabled declarations have, arguments are rejected with at
  least one issue, and accepted arguments yield the rendered prompt.

  Not all answers are the due ones. One enabled declaration that cannot be compiled leaves every
  request without an answer: a record cannot have its name, or a choice in it has no text. And
  accepted arguments yield no text if an integer among them is too long for one, or if a list or
  map has keys that JSON has no place for. There is no other reason (`replies_due_iff`), and the
  last one is found in declared defaults only, as long as the given arguments are JSON.

  Values are trees, and so is a document here: one that refers to itself through an alias has no
  value (`Yaml.Draft.valueOf`), and nothing is said about the registry that it makes.
-/
import DeclaredTools.Proofs.Prompt.Rendering
import DeclaredTools.Proofs.Registry.Table
import DeclaredTools.Proofs.Schema.Conformance
import DeclaredTools.Proofs.Validation.Returned

namespace DeclaredTools

open OrderedMap Validation

/-! ## Requests -/

/-- What a registry can be asked for. -/
inductive Request where
  | list
  | get (name : String)
  | invoke (name : String) (arguments : Arguments)

inductive Reply where
  | tools (tools : List Tool)
  | tool (tool : Tool)
  | answer (answer : Answer)

namespace ToolTable

def find (tools : ToolTable) (name : String) : Except CallError Tool :=
  match tools.get? name with
  | some tool => .ok tool
  | none => .error (.notFound name)

theorem find_eq_ok {tools : ToolTable} {name : String} {tool : Tool}
    (h : tools.get? name = some tool) : tools.find name = .ok tool := by
  rw [find, h]

theorem find_eq_error {tools : ToolTable} {name : String} (h : tools.get? name = none) :
    tools.find name = .error (.notFound name) := by
  rw [find, h]

/-- The outcome of a request to a registry with these tools. -/
def answer (tools : ToolTable) : Request → Except CallError Reply
  | .list => .ok (.tools (tools.map (·.2)))
  | .get name => (tools.find name).map .tool
  | .invoke name es => ((tools.find name).bind fun tool => tool.call (.map es)).map .answer

end ToolTable

namespace Registry

def reply (r : Registry) : Request → Serving Reply
  | .list => do return .tools (← r.list)
  | .get name => do return .tool (← r.get name)
  | .invoke name es => do return .answer (← r.invoke name (.map es))

/-- The replies to requests, each a use of the registry. -/
def replies (r : Registry) : List Request → List (Serving Reply)
  | [] => []
  | request :: requests => r.reply request :: r.used.replies requests

/-! ## Outcomes -/

theorem outcome_list (r : Registry) :
    r.list.outcome = r.tools.outcome.map fun tools => tools.map (·.2) := by
  rw [list, Report.outcome_bind]
  cases r.tools.outcome <;> rfl

theorem outcome_get (r : Registry) (name : String) :
    (r.get name).outcome = r.tools.outcome.bind fun tools => tools.find name := by
  rw [get, Report.outcome_bind]
  congr 1
  funext tools
  rw [ToolTable.find]
  cases tools.get? name <;> rfl

theorem outcome_invoke (r : Registry) (name : String) (arguments : Value) :
    (r.invoke name arguments).outcome =
      (r.get name).outcome.bind fun tool => tool.call arguments := by
  rw [invoke, Report.outcome_bind]
  congr 1
  funext tool
  rw [Report.outcome_bind]
  cases h : tool.call arguments <;> rfl

theorem outcome_reply (r : Registry) (request : Request) :
    (r.reply request).outcome = r.tools.outcome.bind fun tools => tools.answer request := by
  cases request with
  | list =>
    rw [reply, Report.outcome_bind, outcome_list]
    cases r.tools.outcome <;> rfl
  | get name =>
    rw [reply, Report.outcome_bind, outcome_get]
    cases r.tools.outcome with
    | error e => rfl
    | ok tools =>
      show (tools.find name).bind _ = (tools.find name).map _
      cases tools.find name <;> rfl
  | invoke name es =>
    rw [reply, Report.outcome_bind, outcome_invoke, outcome_get]
    cases r.tools.outcome with
    | error e => rfl
    | ok tools =>
      show ((tools.find name).bind fun tool => tool.call (.map es)).bind _ =
        ((tools.find name).bind fun tool => tool.call (.map es)).map _
      cases (tools.find name).bind fun tool => tool.call (.map es) <;> rfl

theorem outcome_reply_used (r : Registry) (request : Request) :
    (r.used.reply request).outcome = (r.reply request).outcome := by
  rw [outcome_reply, outcome_reply, outcome_tools_used]

/-- Requests do not influence one another. -/
theorem outcomes_replies (r : Registry) (requests : List Request) :
    (r.replies requests).map (·.outcome) = requests.map fun q => (r.reply q).outcome := by
  induction requests generalizing r with
  | nil => rfl
  | cons request requests ih =>
    -- the rest is asked of the used registry, which gives what the unused one would give
    rw [replies, List.map_cons, List.map_cons, ih]
    simp only [outcome_reply_used]

end Registry

/-! ## Calls -/

namespace Tool

/-- Validation returns a map, with which a prompt is rendered exactly if all in it have texts. -/
theorem exists_entries_of_validate_eq_ok {tool : Tool} {es : Arguments} {out : Value}
    (h : tool.validate (.map es) = .ok out) (d : Declaration) :
    ∃ entries, out = .map entries ∧
      (Prompt.ofDeclaration d entries).isOk = arePrintable entries := by
  obtain ⟨fields, _, rfl⟩ := Result.map_eq_ok h
  exact ⟨_, rfl, Prompt.isOk_ofDeclaration d (nodup_keys_ofEntries _)⟩

theorem call_of_rejected {tool : Tool} {arguments : Value} {issues : List Issue}
    (h : tool.validate arguments = .error issues) :
    tool.call arguments = .ok (.rejected issues) := by
  rw [call, h]

/-- Accepted arguments yield what rendering the prompt with them yields. -/
theorem call_of_accepted {tool : Tool} {arguments : Value} {out : Arguments}
    (h : tool.validate arguments = .ok (.map out)) {r : Except Unwritable String}
    (hr : Prompt.ofDeclaration tool.declaration out = r) :
    tool.call arguments = (r.map fun text => .prompt text (.map out)).mapError .text := by
  rw [call, h]
  dsimp only
  split
  · next text htext =>
    have hok : r = .ok text := hr.symm.trans htext
    rw [hok]
    rfl
  · next e herror =>
    have hfailed : r = .error e := hr.symm.trans herror
    rw [hfailed]
    rfl

/-- Arguments are never rejected without an issue. -/
theorem issues_ne_nil {tool : Tool} {es : Arguments} {issues : List Issue}
    (h : tool.validate (.map es) = .error issues) : issues ≠ [] := by
  rintro rfl
  rw [validate, Parameters.validate_eq_check] at h
  have hexplained := explained_check (ModelName.arguments tool.name) tool.parameters.shape (.map es)
  rw [h] at hexplained
  exact Bool.false_ne_true hexplained

end Tool

/-! ## Due answers -/

/-- The answer to a request that is due from a registry of the declarations. -/
inductive Due (set : DeclarationSet) : Request → Except CallError Reply → Prop
  | tools {tools : List Tool}
    (names : ∀ name, (∃ tool ∈ tools, tool.name = name) ↔ ∃ d, set.Offers name d) :
    Due set .list (.ok (.tools tools))
  | tool {name : String} {d : Declaration} (offers : set.Offers name d) :
    Due set (.get name) (.ok (.tool (.ofDeclaration d)))
  | noTool {name : String} (none_offers : ∀ d, ¬ set.Offers name d) :
    Due set (.get name) (.error (.notFound name))
  | rejection {name : String} {es : Arguments} {d : Declaration} {issues : List Issue}
    (offers : set.Offers name d)
    (rejected : (Tool.ofDeclaration d).validate (.map es) = .error issues)
    (explained : issues ≠ []) :
    Due set (.invoke name es) (.ok (.answer (.rejected issues)))
  | prompt {name : String} {es : Arguments} {d : Declaration} {out : Arguments} {text : String}
    (offers : set.Offers name d)
    (accepted : (Tool.ofDeclaration d).validate (.map es) = .ok (.map out))
    (rendered : Prompt.ofDeclaration d out = .ok text) :
    Due set (.invoke name es) (.ok (.answer (.prompt text (.map out))))
  | noCall {name : String} {es : Arguments} (none_offers : ∀ d, ¬ set.Offers name d) :
    Due set (.invoke name es) (.error (.notFound name))

namespace Request

/-- If the request is a call whose arguments are accepted, then all that are returned have texts. -/
def HasTexts (set : DeclarationSet) : Request → Prop
  | .invoke name es => ∀ tool out, set.table.get? name = some tool →
    tool.validate (.map es) = .ok (.map out) → arePrintable out = true
  | _ => True

/-- The arguments in the request are JSON. -/
def isJson : Request → Bool
  | .invoke _ es => Value.areJsonEntries es
  | _ => true

/-- The integers in the request are short enough for a text. -/
def isWritable : Request → Bool
  | .invoke _ es => Value.areWritableEntries es
  | _ => true

end Request

section

variable {set : DeclarationSet} {name : String}

theorem due_list (set : DeclarationSet) : Due set .list (set.table.answer .list) := by
  refine .tools fun name => ?_
  constructor
  · rintro ⟨tool, htool, rfl⟩
    obtain ⟨⟨other, _⟩, hmem, rfl⟩ := List.mem_map.1 htool
    have hget := get?_eq_some_of_mem (nodup_keys_ofEntries _) hmem
    obtain ⟨d, ⟨henabled, _, hset⟩, rfl⟩ := DeclarationSet.offers_of_get?_table hget
    exact ⟨d, henabled, rfl, hset⟩
  · rintro ⟨d, hoffers⟩
    cases hget : set.table.get? name with
    | none => exact absurd hoffers (DeclarationSet.not_offers_of_get?_table hget d)
    | some tool =>
      obtain ⟨e, ⟨_, hname, _⟩, rfl⟩ := DeclarationSet.offers_of_get?_table hget
      exact ⟨_, List.mem_map_of_mem (mem_of_get? hget), hname⟩

theorem due_get (set : DeclarationSet) (name : String) :
    Due set (.get name) (set.table.answer (.get name)) := by
  rw [ToolTable.answer]
  cases h : set.table.get? name with
  | some tool =>
    obtain ⟨d, hoffers, rfl⟩ := DeclarationSet.offers_of_get?_table h
    rw [ToolTable.find_eq_ok h]
    exact .tool hoffers
  | none =>
    rw [ToolTable.find_eq_error h]
    exact .noTool (DeclarationSet.not_offers_of_get?_table h)

/-- A call has the due answer exactly if all returned arguments have texts. -/
theorem due_call_iff {tool : Tool} (h : set.table.get? name = some tool) (es : Arguments) :
    Due set (.invoke name es) ((tool.call (.map es)).map .answer) ↔
      ∀ out, tool.validate (.map es) = .ok (.map out) → arePrintable out = true := by
  obtain ⟨d, hoffers, rfl⟩ := DeclarationSet.offers_of_get?_table h
  cases hresult : (Tool.ofDeclaration d).validate (.map es) with
  | error issues =>
    rw [Tool.call_of_rejected hresult]
    have hdue := Due.rejection hoffers hresult (Tool.issues_ne_nil hresult)
    refine iff_of_true hdue fun out hout => ?_
    cases hout
  | ok out =>
    obtain ⟨entries, rfl, hprompt⟩ := Tool.exists_entries_of_validate_eq_ok hresult d
    cases htext : Prompt.ofDeclaration d entries with
    | ok text =>
      rw [htext] at hprompt
      rw [Tool.call_of_accepted hresult htext]
      have hdue := Due.prompt hoffers hresult htext
      refine iff_of_true hdue fun out hout => ?_
      rw [← Value.map.inj (Except.ok.inj hout)]
      exact hprompt.symm
    | error e =>
      rw [htext] at hprompt
      rw [Tool.call_of_accepted hresult htext]
      refine iff_of_false (fun hdue => ?_) fun hall => ?_
      · cases hdue
      · exact Bool.false_ne_true (hprompt.trans (hall _ rfl))

/-- When a request to a new registry has the due answer. -/
theorem due_reply_iff (set : DeclarationSet) (request : Request) :
    Due set request ((Registry.ofSet set).reply request).outcome ↔
      set.obstacle = none ∧ request.HasTexts set := by
  rw [Registry.outcome_reply, Registry.outcome_tools_ofSet]
  cases set.obstacle with
  | some e =>
    refine iff_of_false (fun hdue => ?_) fun h => Option.some_ne_none e h.1
    cases hdue
  | none =>
    refine Iff.trans ?_ (and_iff_right rfl).symm
    show Due set request (set.table.answer request) ↔ _
    cases request with
    | list => exact iff_of_true (due_list set) trivial
    | get name => exact iff_of_true (due_get set name) trivial
    | invoke name es =>
      rw [ToolTable.answer, Request.HasTexts]
      cases h : set.table.get? name with
      | none =>
        rw [ToolTable.find_eq_error h]
        have hdue : Due set (.invoke name es) (.error (.notFound name)) :=
          .noCall (DeclarationSet.not_offers_of_get?_table h)
        refine iff_of_true hdue fun tool out htool => ?_
        cases htool
      | some tool =>
        rw [ToolTable.find_eq_ok h]
        refine (due_call_iff h es).trans ⟨fun hall other out hother => ?_, fun hall out => ?_⟩
        · exact Option.some.inj hother ▸ hall out
        · exact hall tool out rfl

end

/-! ## JSON arguments -/

namespace Value

mutual

/-- The keys in a JSON value are texts, so only its integers can be without a text. -/
theorem hasJsonText_of_isJson : (v : Value) → v.isJson = true → v.isWritable = true →
    v.hasJsonText = true
  | .null, _, _ | .bool _, _, _ | .float _, _, _ | .text _, _, _ => rfl
  | .int _, _, hshort => hshort
  | .list xs, h, hshort => haveJsonTexts_of_areJson xs h hshort
  | .map es, h, hshort => entriesHaveJsonTexts_of_areJsonEntries es h hshort

theorem haveJsonTexts_of_areJson : (xs : List Value) → areJson xs = true →
    areWritable xs = true → haveJsonTexts xs = true
  | [], _, _ => rfl
  | x :: xs, h, hshort => by
    obtain ⟨hx, hxs⟩ := Bool.and_eq_true_iff.1 h
    obtain ⟨hfirst, hrest⟩ := Bool.and_eq_true_iff.1 hshort
    exact Bool.and_eq_true_iff.2
      ⟨hasJsonText_of_isJson x hx hfirst, haveJsonTexts_of_areJson xs hxs hrest⟩

theorem entriesHaveJsonTexts_of_areJsonEntries : (es : List (Value × Value)) →
    areJsonEntries es = true → areWritableEntries es = true → entriesHaveJsonTexts es = true
  | [], _, _ => rfl
  | (k, v) :: es, h, hshort => by
    obtain ⟨⟨s, rfl⟩, hv, hes⟩ := areJsonEntries_cons_iff.1 h
    obtain ⟨hfirst, hrest⟩ := Bool.and_eq_true_iff.1 (Bool.and_eq_true_iff.1 hshort).2
    have hvalue := hasJsonText_of_isJson v hv hfirst
    have hentries := entriesHaveJsonTexts_of_areJsonEntries es hes hrest
    exact Bool.and_eq_true_iff.2 ⟨rfl, Bool.and_eq_true_iff.2 ⟨hvalue, hentries⟩⟩

end

end Value

/-- All declared defaults of the enabled declarations have JSON texts. -/
def DeclarationSet.hasJsonDefaults (set : DeclarationSet) : Bool :=
  set.all fun e => !e.2.isEnabled || e.2.parameterList.shape.all Shape.hasJsonDefault

/-- What is returned for JSON arguments has texts if the defaults have JSON texts. -/
theorem Tool.arePrintable_of_isJson {tool : Tool}
    (hdefaults : tool.parameters.shape.all Shape.hasJsonDefault = true) {es out : Arguments}
    (hjson : Value.areJsonEntries es = true) (hshort : Value.areWritableEntries es = true)
    (h : tool.validate (.map es) = .ok (.map out)) : arePrintable out = true := by
  rw [Tool.validate, Parameters.validate_eq_check] at h
  have htext : (Value.map out).hasJsonText = true :=
    hasJsonText_returned _ _ hdefaults (.map es) (.map out)
      (Value.entriesHaveJsonTexts_of_areJsonEntries es hjson hshort) h
  refine List.all_eq_true.2 fun e he => ?_
  obtain ⟨hkey, hvalue⟩ := Value.entriesHaveJsonTexts_iff.1 htext e he
  exact Bool.and_eq_true_iff.2
    ⟨Value.isWritable_of_isJsonKey hkey, Value.isPrintable_of_hasJsonText hvalue⟩

theorem hasTexts_of_isJson {set : DeclarationSet} (hdefaults : set.hasJsonDefaults = true)
    {request : Request} (hjson : request.isJson = true) (hshort : request.isWritable = true) :
    request.HasTexts set := by
  cases request with
  | list => trivial
  | get name => trivial
  | invoke name es =>
    intro tool out htool hresult
    obtain ⟨d, ⟨henabled, _, key, hmem⟩, rfl⟩ := DeclarationSet.offers_of_get?_table htool
    have hshape : d.parameterList.shape.all Shape.hasJsonDefault = true := by
      have hdeclaration := List.all_eq_true.1 hdefaults (key, d) hmem
      rwa [henabled, Bool.not_true, Bool.false_or] at hdeclaration
    exact Tool.arePrintable_of_isJson hshape hjson hshort hresult

/-! ## Sessions -/

/-- The outcomes of requests to the registry of a document. -/
def outcomesOf (raw : Value) (requests : List Request) : List (Except CallError Reply) :=
  ((Registry.ofSet (.ofValue raw)).replies requests).map (·.outcome)

theorem outcomesOf_eq_map (raw : Value) (requests : List Request) :
    outcomesOf raw requests =
      requests.map fun q => ((Registry.ofSet (.ofValue raw)).reply q).outcome :=
  Registry.outcomes_replies _ requests

/-- **When a registry answers as is due.** All requests to the registry of a document have the
answers that are due exactly if records can have the names of its enabled declarations, all choices
in these have texts, and so do all accepted arguments. Arguments have texts if they are JSON with
integers that are short enough, and the declared defaults have JSON texts. -/
theorem replies_due_iff (raw : Value) (requests : List Request) :
    (List.Forall₂ (Due (.ofValue raw)) requests (outcomesOf raw requests) ↔
      ∀ request ∈ requests, ((DeclarationSet.ofValue raw).hasSoundNames = true ∧
        (DeclarationSet.ofValue raw).hasWritableChoices = true) ∧
        request.HasTexts (.ofValue raw)) ∧
    ((DeclarationSet.ofValue raw).hasSoundNames = true →
      (DeclarationSet.ofValue raw).hasWritableChoices = true →
      (DeclarationSet.ofValue raw).hasJsonDefaults = true →
      (∀ request ∈ requests, request.isJson = true ∧ request.isWritable = true) →
        List.Forall₂ (Due (.ofValue raw)) requests (outcomesOf raw requests)) := by
  have hiff : List.Forall₂ (Due (.ofValue raw)) requests (outcomesOf raw requests) ↔
      ∀ request ∈ requests, ((DeclarationSet.ofValue raw).hasSoundNames = true ∧
        (DeclarationSet.ofValue raw).hasWritableChoices = true) ∧
        request.HasTexts (.ofValue raw) := by
    rw [outcomesOf_eq_map, List.forall₂_map_right_iff, List.forall₂_same]
    refine forall₂_congr fun request _ => ?_
    rw [due_reply_iff, DeclarationSet.obstacle_eq_none_iff]
  refine ⟨hiff, fun hnames hchoices hdefaults hjson => hiff.2 fun request hrequest => ?_⟩
  obtain ⟨hvalue, hshort⟩ := hjson request hrequest
  exact ⟨⟨hnames, hchoices⟩, hasTexts_of_isJson hdefaults hvalue hshort⟩

/-- A tool that takes a map, with a default that has one key. -/
private def keyed (key : Value) : List (Value × Value) :=
  [(.text "parameters", .map [(.text "d", .map
    [(.text "type", .text "object"), (.text "default", .map [(key, .text "x")])])])]

theorem replies_due_iff_keyed :
    List.Forall₂ (Due (.ofValue (.map [(.text "t", .map (keyed (.int 1)))])))
      [.list, .invoke "t" [], .get "u"]
      (outcomesOf (.map [(.text "t", .map (keyed (.int 1)))]) [.list, .invoke "t" [], .get "u"]) :=
  (replies_due_iff (.map [(.text "t", .map (keyed (.int 1)))]) [.list, .invoke "t" [], .get "u"]).2
    (by decide +kernel) (by decide +kernel) (by decide +kernel) (by decide +kernel)

/-- A default whose key is a date. -/
private def dated : List (Value × Value) := keyed (.date ⟨2024, 1, 31⟩)

/-- A name with a null character, beside another one. -/
private def nullNamed : Value :=
  .map [(.text "a\x00", .map []), (.text "ok", .map [(.text "prompt", .text "hello")])]

/-- A default with a key that is a date leaves an accepted call without an answer, and a name with a
null character leaves even the calls of other tools without one. -/
theorem dated_and_nullNamed_not_due :
    (outcomesOf (.map [(.text "t", .map dated)]) [.invoke "t" []] =
        [.error (.text (.key "datetime.date"))] ∧
      ¬ List.Forall₂ (Due (.ofValue (.map [(.text "t", .map dated)]))) [.invoke "t" []]
        (outcomesOf (.map [(.text "t", .map dated)]) [.invoke "t" []])) ∧
    (outcomesOf nullNamed [.get "ok", .invoke "ok" []] =
        [.error (.compile .nullName), .error (.compile .nullName)] ∧
      ¬ List.Forall₂ (Due (.ofValue nullNamed)) [.get "ok", .invoke "ok" []]
        (outcomesOf nullNamed [.get "ok", .invoke "ok" []])) := by
  have hset : DeclarationSet.ofValue (.map [(.text "t", .map dated)]) =
      [("t", .ofEntries "t" dated)] := rfl
  have htable : DeclarationSet.table [("t", .ofEntries "t" dated)] =
      [("t", .ofDeclaration (.ofEntries "t" dated))] := DeclarationSet.table_singleton ..
  have hclear : DeclarationSet.obstacle [("t", .ofEntries "t" dated)] = none :=
    DeclarationSet.obstacle_singleton ..
  have hdated : outcomesOf (.map [(.text "t", .map dated)]) [.invoke "t" []] =
      [.error (.text (.key "datetime.date"))] := by
    rw [outcomesOf_eq_map, List.map_singleton, Registry.outcome_reply,
      Registry.outcome_tools_ofSet, hset, hclear, htable]
    rfl
  have hobstacle : (DeclarationSet.ofValue nullNamed).obstacle = some .nullName := by
    rw [DeclarationSet.obstacle, ToolTable.inKeyOrder,
      List.mergeSort_of_pairwise (by decide +kernel)]
    rfl
  have hnull : outcomesOf nullNamed [.get "ok", .invoke "ok" []] =
      [.error (.compile .nullName), .error (.compile .nullName)] := by
    rw [outcomesOf_eq_map, List.map_cons, List.map_singleton, Registry.outcome_reply,
      Registry.outcome_reply, Registry.outcome_tools_ofSet, hobstacle]
    rfl
  refine ⟨⟨hdated, ?_⟩, hnull, ?_⟩
  · rw [hdated]
    rintro (_ | ⟨hdue, _⟩)
    cases hdue
  · rw [hnull]
    rintro (_ | ⟨hdue, _⟩)
    cases hdue

end DeclaredTools
