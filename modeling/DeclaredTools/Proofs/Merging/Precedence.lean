/-
  Precedence among documents. Folded one after the other into the empty set, documents make one
  declaration for each key that any of them holds, and every field but the references is what the
  last document with that field says (`last_document_wins`).

  A field that is null or false is said all the same; only a field that no document has is unset.
  Parameters are a field like the others: those of the last document stand for all of them.
-/
import DeclaredTools.Proofs.Merging.DeclarationSet

namespace DeclaredTools

open OrderedMap

namespace Declaration

/-! ## Fields -/

/-- The fields that an overlay simply overrides. -/
inductive Field where
  | name
  | description
  | prompt
  | context
  | parameters
  | toolMode
  | disabled

namespace Field

/-- What a field holds once it is set. -/
abbrev Content : Field → Type
  | .name | .description | .prompt | .context => Option String
  | .parameters => Option Parameters
  | .toolMode => Option ToolMode
  | .disabled => Bool

/-- The key under which a document has the field. -/
def label : Field → String
  | .name => "name"
  | .description => "description"
  | .prompt => "prompt"
  | .context => "context"
  | .parameters => "parameters"
  | .toolMode => "toolMode"
  | .disabled => "disabled"

/-- What a value in a document says about the field. -/
def read : (f : Field) → Value → f.Content
  | .name, v | .description, v | .prompt, v | .context, v => Shape.textOf v
  | .parameters, .map es => some (Parameters.ofValue (.map es))
  | .parameters, _ => none
  | .toolMode, v => ToolMode.ofValue? v
  | .disabled, v => v.isTruthy

/-- What a declaration has for the field, `none` if it is unset. -/
def of? : (f : Field) → Declaration → Option f.Content
  | .name, d => d.name
  | .description, d => d.description
  | .prompt, d => d.prompt
  | .context, d => d.context
  | .parameters, d => d.parameters
  | .toolMode, d => d.toolMode
  | .disabled, d => d.disabled

theorem of?_ofEntries (f : Field) (key : String) (es : List (Value × Value)) :
    f.of? (ofEntries key es) = (Value.lookup f.label es).map f.read := by
  cases f with
  | parameters =>
    refine congrArg (fun g => (Value.lookup "parameters" es).map g) (funext fun v => ?_)
    cases v <;> rfl
  | _ => rfl

theorem of?_merge (f : Field) (base overlay : Declaration) :
    f.of? (base.merge overlay) = (f.of? overlay).or (f.of? base) := by
  cases f <;> rfl

/-- The same for declarations of which either may be missing. -/
theorem bind_of?_optionMerge (f : Field) (base overlay : Option Declaration) :
    (Option.merge merge base overlay).bind f.of? =
      (overlay.bind f.of?).or (base.bind f.of?) :=
  bind_optionMerge f.of?_merge base overlay

end Field

end Declaration

namespace DeclarationSet

open Declaration

/-! ## Documents -/

/-- The declarations in a document: each map, under the text of its key. -/
def entriesIn : Value → List (String × List (Value × Value))
  | .map es => es.filterMap fun (k, v) =>
    match v with
    | .map fields => some (k.display, fields)
    | _ => none
  | _ => []

/-- The keys of the declarations in a document. -/
def keysIn (document : Value) : List String := (entriesIn document).map Prod.fst

/-- What a document has under the label of a field, in its entry for a key. Of entries with one key
the last counts. -/
def saidIn (key : String) (f : Field) (document : Value) : Option Value :=
  (lastValue? key (entriesIn document)).bind (Value.lookup f.label)

/-- What the last document that has the field says about it. -/
def lastSaid (documents : List Value) (key : String) (f : Field) : Option Value :=
  documents.reverse.findSome? (saidIn key f)

theorem ofValue_eq_ofEntries (document : Value) :
    ofValue document =
      OrderedMap.ofEntries ((entriesIn document).map fun e => (e.1, ofEntries e.1 e.2)) := by
  cases document with
  | map es =>
    rw [ofValue, entriesIn, List.map_filterMap]
    congr 2
    funext e
    obtain ⟨k, v⟩ := e
    cases v <;> rfl
  | _ => rfl

theorem keys_ofValue (document : Value) :
    (ofValue document).keys = (keysIn document).eraseDups := by
  rw [ofValue_eq_ofEntries, keys_ofEntries, List.map_map]
  rfl

theorem bind_of?_ofValue (document : Value) (key : String) (f : Field) :
    ((ofValue document).get? key).bind f.of? = (saidIn key f document).map f.read := by
  rw [ofValue_eq_ofEntries, get?_ofEntries, lastValue?_map, saidIn]
  cases lastValue? key (entriesIn document) with
  | none => rfl
  | some es => exact f.of?_ofEntries key es

/-! ## Folding documents -/

/-- The set that documents make, the later ones merged over the earlier ones. -/
def ofDocuments (documents : List Value) : DeclarationSet :=
  (documents.map ofValue).foldl merge []

theorem ofDocuments_concat (documents : List Value) (document : Value) :
    ofDocuments (documents ++ [document]) = (ofDocuments documents).merge (ofValue document) := by
  rw [ofDocuments, List.map_append, List.foldl_append]
  rfl

theorem keys_ofDocuments (documents : List Value) :
    (ofDocuments documents).keys = (documents.flatMap keysIn).eraseDups := by
  induction documents using List.reverseRecOn with
  | nil => rfl
  | append_singleton documents document ih =>
    rw [ofDocuments_concat, List.flatMap_append, List.flatMap_singleton]
    exact keys_mergeWith_eraseDups ih (keys_ofValue document) (wellFormed_ofValue document).nodup

theorem lastSaid_concat (documents : List Value) (document : Value) (key : String) (f : Field) :
    lastSaid (documents ++ [document]) key f =
      (saidIn key f document).or (lastSaid documents key f) :=
  findSome?_reverse_concat (saidIn key f) documents document

theorem bind_of?_ofDocuments (documents : List Value) (key : String) (f : Field) :
    ((ofDocuments documents).get? key).bind f.of? = (lastSaid documents key f).map f.read := by
  induction documents using List.reverseRecOn with
  | nil => rfl
  | append_singleton documents document ih =>
    have hget : ((ofDocuments documents).merge (ofValue document)).get? key =
        Option.merge Declaration.merge ((ofDocuments documents).get? key)
          ((ofValue document).get? key) :=
      get?_mergeWith _ (wellFormed_ofValue document).nodup key
    rw [ofDocuments_concat, hget, f.bind_of?_optionMerge, ih, bind_of?_ofValue, lastSaid_concat,
      Option.map_or]

/-- **The last document wins, field by field.** The keys of the set are those of the documents, in
the order in which they first occur. Each field of each declaration is what the last document says
that has the field under this key, and it is set exactly when some document has it. -/
theorem last_document_wins (documents : List Value) :
    (ofDocuments documents).keys = (documents.flatMap keysIn).eraseDups ∧
    ∀ (key : String) (f : Field),
      ((ofDocuments documents).get? key).bind f.of? = (lastSaid documents key f).map f.read ∧
      ((((ofDocuments documents).get? key).bind f.of?).isSome = true ↔
        ∃ document ∈ documents, (saidIn key f document).isSome = true) := by
  refine ⟨keys_ofDocuments documents, fun key f => ?_⟩
  refine ⟨bind_of?_ofDocuments documents key f, ?_⟩
  rw [bind_of?_ofDocuments, Option.isSome_map, lastSaid, List.findSome?_isSome_iff]
  simp only [List.mem_reverse]

-- A null name overrides a name, and parameters are replaced as a whole.
example :
    let first : Value := .ofFields [("t", .ofFields [("name", .text "n"), ("prompt", .text "p"),
      ("parameters", .ofFields [("a", .null)])])]
    let second : Value := .ofFields [("u", .ofFields []), ("t", .ofFields [("name", .null),
      ("parameters", .ofFields [("b", .null)])])]
    let set := ofDocuments [first, second]
    set.keys = ["t", "u"] ∧ (set.get? "t").bind (·.name) = some none ∧
      (set.get? "t").bind (·.prompt) = some (some "p") ∧
      ((set.get? "t").map fun d => d.parameterList.keys) = some ["b"] := by
  decide +kernel

end DeclarationSet

end DeclaredTools
