/-
  No argument is lost from a prompt. The text of a call is that of an outline, in which every
  argument has its places: those that the placeholders of the prompt and of the context keep for it
  or, if there are none, one line of the parameters (`arguments_accounted_for`).

  What makes this say that values are not expanded is what the outline depends on, namely the
  declaration, the names of the arguments and which of their texts are empty: sections are divided
  by a blank line unless there is nothing in front of it. Beyond that nothing in the outline depends
  on a value, and each of its places is filled with the text of one value as it is.
-/
import DeclaredTools.Proofs.Prompt.Substitution
import DeclaredTools.Proofs.Prompt.Rendering

namespace DeclaredTools

open OrderedMap Result

/-! ## Arguments -/

/-- Arguments of a call, each under a name of its own. -/
structure NamedArguments where
  fields : OrderedMap Value
  nodup : fields.keys.Nodup

namespace NamedArguments

variable {args : NamedArguments}

/-- The names in the order in which the arguments were given. -/
def names (args : NamedArguments) : List String := args.fields.keys

/-- The arguments as prompts take them. -/
def entries (args : NamedArguments) : Arguments := args.fields.map fun (k, v) => (.text k, v)

/-- What an argument says in a prompt. -/
def said (args : NamedArguments) (name : String) : String :=
  ((args.fields.get? name).bind fun v => (stringify v).toOption).getD ""

theorem lookup_entries (args : NamedArguments) (name : String) :
    Value.lookup name args.entries = args.fields.get? name :=
  Value.lookup_fields name args.fields

theorem mem_names_iff {name : String} :
    name ∈ args.names ↔ ∃ v, args.fields.get? name = some v :=
  mem_keys_iff_get?

/-- Arguments that all have texts say these. -/
theorem stringify_eq_said (h : arePrintable args.entries = true) {name : String} {v : Value}
    (hv : args.fields.get? name = some v) : stringify v = .ok (args.said name) := by
  have hprintable : v.isPrintable = true :=
    isPrintable_of_lookup h ((args.lookup_entries name).trans hv)
  rw [← isOk_stringify] at hprintable
  obtain ⟨text, htext⟩ := isOk_eq_true_iff.1 hprintable
  rw [said, hv, Option.bind_some, htext]
  rfl

end NamedArguments

/-! ## Outlines -/

/-- A piece of an outline: a text, or the place of an argument. -/
inductive Piece where
  | fixed (text : String)
  | place (name : String)
  deriving DecidableEq

namespace Piece

/-- The text of a piece when the arguments say what they do. -/
def filled (said : String → String) : Piece → String
  | .fixed text => text
  | .place name => said name

/-- The argument whose place it is. -/
def name? : Piece → Option String
  | .fixed _ => none
  | .place name => some name

/-- An argument says nothing. -/
def silentIn (said : String → String) (name : String) : Bool := said name == ""

/-- There is no text to the piece, given which arguments are silent. -/
def isSilent (silent : String → Bool) : Piece → Bool
  | .fixed text => text == ""
  | .place name => silent name

theorem isSilent_iff (said : String → String) (p : Piece) :
    p.isSilent (silentIn said) = true ↔ p.filled said = "" := by
  cases p <;> exact beq_iff_eq

end Piece

/-- A text in which arguments have their places. -/
abbrev Outline := List Piece

namespace Outline

/-- The text of an outline when the arguments say what they do. -/
def filled (said : String → String) (o : Outline) : String :=
  String.join (o.map (Piece.filled said))

/-- The arguments that have places, each as often as it has one. -/
def places (o : Outline) : List String := o.filterMap Piece.name?

variable {said : String → String}

theorem filled_cons (p : Piece) (o : Outline) :
    filled said (p :: o) = p.filled said ++ filled said o :=
  String.join_cons

theorem filled_append (o o' : Outline) :
    filled said (o ++ o') = filled said o ++ filled said o' := by
  simp [filled]

theorem places_append (o o' : Outline) : places (o ++ o') = places o ++ places o' :=
  List.filterMap_append

theorem filled_eq_empty_iff (o : Outline) :
    filled said o = "" ↔ o.all (Piece.isSilent (Piece.silentIn said)) = true := by
  induction o with
  | nil => simp [filled]
  | cons p o ih =>
    rw [filled_cons, String.append_eq_empty_iff, ih, List.all_cons, Bool.and_eq_true,
      Piece.isSilent_iff]

theorem filled_intercalate (sep : String) (os : List Outline) :
    filled said ([.fixed sep].intercalate os) = sep.intercalate (os.map (filled said)) := by
  induction os with
  | nil => simp [filled]
  | cons o os ih =>
    cases os with
    | nil => simp
    | cons next os =>
      rw [List.intercalate_cons_cons, filled_append, filled_append, ih]
      simp [filled, Piece.filled]

theorem places_intercalate (sep : String) (os : List Outline) :
    places ([.fixed sep].intercalate os) = os.flatMap places := by
  induction os with
  | nil => rfl
  | cons o os ih =>
    cases os with
    | nil => simp
    | cons next os =>
      rw [List.intercalate_cons_cons, places_append, places_append, ih]
      simp [places, Piece.name?]

/-- What an argument says stands wherever it has a place. -/
theorem exists_filled_eq {o : Outline} {name : String} (h : name ∈ places o) :
    ∃ before behind, filled said o = before ++ said name ++ behind := by
  obtain ⟨p, hp, hname⟩ := List.mem_filterMap.1 h
  obtain ⟨front, rest, rfl⟩ := List.append_of_mem hp
  have hplace : p = .place name := by
    cases p with
    | fixed text => cases hname
    | place other => rw [Option.some.inj hname]
  refine ⟨filled said front, filled said rest, ?_⟩
  rw [filled_append, filled_cons, hplace, String.append_assoc]
  rfl

/-- A section behind what there is already, divided from it unless that is silent. -/
def append (silent : String → Bool) (o more : Outline) : Outline :=
  if o.all (Piece.isSilent silent) then o ++ more else o ++ .fixed "\n\n" :: more

theorem filled_outlineAppend (o more : Outline) :
    filled said (append (Piece.silentIn said) o more) =
      Prompt.append (filled said o) (filled said more) := by
  unfold append Prompt.append
  by_cases hempty : filled said o = ""
  · rw [if_pos ((filled_eq_empty_iff o).1 hempty), if_pos hempty, filled_append, hempty,
      String.empty_append]
  · rw [if_neg fun hall => hempty ((filled_eq_empty_iff o).2 hall), if_neg hempty, filled_append,
      filled_cons, String.append_assoc]
    rfl

theorem places_outlineAppend (silent : String → Bool) (o more : Outline) :
    places (append silent o more) = places o ++ places more := by
  unfold append
  split
  · exact places_append o more
  · exact places_append o (.fixed "\n\n" :: more)

end Outline

/-! ## Outlines of templates -/

namespace Template

/-- The name in a piece. -/
def Segment.name? : Segment → Option String
  | .char _ => none
  | .placeholder body => some (nameIn body)

/-- The names in the placeholders of a template, from left to right. -/
def namesIn (template : String) : List String :=
  (segments template.toList).filterMap Segment.name?

/-- A piece in the outline: a placeholder with one of the names keeps a place for the argument. -/
def Segment.outlined (names : List String) (s : Segment) : Piece :=
  match s.name? with
  | some name => if name ∈ names then .place name else .fixed (String.ofList s.source)
  | none => .fixed (String.ofList s.source)

/-- A template with places for the arguments that it mentions. -/
def outline (names : List String) (template : Option String) : Outline :=
  (segments (template.getD "").toList).map (Segment.outlined names)

/-- The places of a template are those of the names among the ones that it mentions. -/
theorem places_outline (names : List String) (template : Option String) :
    Outline.places (outline names template) =
      (template.toList.flatMap namesIn).filter (· ∈ names) := by
  cases template with
  | none => simp [outline, segments, Outline.places]
  | some text =>
    rw [Option.toList_some, List.flatMap_singleton, Outline.places, outline, namesIn,
      List.filterMap_map, List.filter_filterMap]
    refine List.filterMap_congr fun s _ => ?_
    cases s with
    | char c => rfl
    | placeholder body =>
      by_cases hname : nameIn body ∈ names <;>
        simp [Segment.outlined, Segment.name?, Piece.name?, Option.filter, hname]

section Rendered

variable {args : NamedArguments}

theorem argument?_entries (args : NamedArguments) (s : Segment) :
    s.argument? args.entries =
      s.name?.bind fun name => (args.fields.get? name).map fun v => (name, v) := by
  cases s with
  | char c => rfl
  | placeholder body =>
    rw [Segment.argument?, argumentIn, args.lookup_entries]
    rfl

theorem get?_of_argument? {s : Segment} {name : String} {v : Value}
    (h : s.argument? args.entries = some (name, v)) : args.fields.get? name = some v := by
  rw [argument?_entries] at h
  obtain ⟨name', -, hmap⟩ := Option.bind_eq_some_iff.1 h
  obtain ⟨v', hv', heq⟩ := Option.map_eq_some_iff.1 hmap
  obtain ⟨rfl, rfl⟩ := Prod.mk.inj heq
  exact hv'

/-- A piece keeps a place for the argument that is put into it. -/
theorem outlined_names (args : NamedArguments) (s : Segment) :
    s.outlined args.names =
      match s.argument? args.entries with
      | some (name, _) => .place name
      | none => .fixed (String.ofList s.source) := by
  rw [argument?_entries, Segment.outlined]
  cases s.name? with
  | none => rfl
  | some name =>
    rw [Option.bind_some]
    cases hv : args.fields.get? name with
    | none => exact if_neg (get?_eq_none_iff.1 hv)
    | some v => exact if_pos (NamedArguments.mem_names_iff.2 ⟨v, hv⟩)

theorem filled_outlined (h : arePrintable args.entries = true) (s : Segment) :
    s.filled args.entries = .ok ((s.outlined args.names).filled args.said) := by
  rw [Segment.filled, outlined_names]
  cases hs : s.argument? args.entries with
  | none => rfl
  | some e => exact NamedArguments.stringify_eq_said h (get?_of_argument? hs)

theorem usedIn_entries (args : NamedArguments) (xs : List Segment) :
    usedIn args.entries xs = Outline.places (xs.map (Segment.outlined args.names)) := by
  rw [usedIn, List.map_filterMap, Outline.places, List.filterMap_map]
  refine List.filterMap_congr fun s _ => ?_
  rw [Function.comp_apply, outlined_names]
  cases s.argument? args.entries <;> rfl

/-- A template is rendered by filling its outline. -/
theorem render_outline (h : arePrintable args.entries = true) (template : Option String) :
    render template args.entries =
      .ok ⟨Outline.filled args.said (outline args.names template),
        Outline.places (outline args.names template)⟩ := by
  cases template with
  | none => simp [render, outline, segments, Outline.filled, Outline.places]
  | some text =>
    rw [render_eq, concatM_eq_ok fun s _ => filled_outlined h s, usedIn_entries, Outline.filled,
      outline, List.map_map]
    rfl

end Rendered

end Template

/-! ## Outlines of prompts -/

namespace Prompt

/-- The names that the prompt and the context mention. -/
def mentioned (d : Declaration) : List String :=
  (d.prompt.join.toList ++ d.context.join.toList).flatMap Template.namesIn

/-- The names that neither mentions. -/
def listed (d : Declaration) (names : List String) : List String :=
  names.filter fun name => name ∉ mentioned d

/-- The line of an argument. -/
def line (name : String) : Outline := [.fixed ("- " ++ name ++ ": "), .place name]

/-- The section of the parameters. -/
def parameters (names : List String) : Outline :=
  .fixed "## Parameters\n" :: [.fixed "\n"].intercalate (names.map line)

/-- The context, if there is one. -/
def contextOutline (names : List String) (context : Option String) : Option Outline :=
  match context with
  | none => none
  | some c => if c = "" then none else some (Template.outline names (some c))

/-- The prompt, and the context behind it. -/
def templates (d : Declaration) (names : List String) (silent : String → Bool) : Outline :=
  match contextOutline names d.context.join with
  | some context => (Template.outline names d.prompt.join).append silent context
  | none => Template.outline names d.prompt.join

/-- The prompt of a declaration with places for arguments that have these names, given which of them
are silent. -/
def outline (d : Declaration) (names : List String) (silent : String → Bool) : Outline :=
  let text := templates d names silent
  (if (listed d names).isEmpty then text else text.append silent (parameters (listed d names))) ++
    [.fixed (withTools "" (ToolRefs.listed d.tools.join) (d.toolMode.join = some .sequential))]

/-! ### Places -/

theorem places_contextOutline (names : List String) (context : Option String) :
    ((contextOutline names context).map Outline.places).getD [] =
      (context.toList.flatMap Template.namesIn).filter (· ∈ names) := by
  cases context with
  | none => rfl
  | some c =>
    rw [contextOutline]
    split
    · next hempty =>
      rw [hempty]
      simp [Template.namesIn, Template.segments]
    · exact Template.places_outline names (some c)

theorem places_templates (d : Declaration) (names : List String) (silent : String → Bool) :
    Outline.places (templates d names silent) = (mentioned d).filter (· ∈ names) := by
  have hprompt := Template.places_outline names d.prompt.join
  have hcontext := places_contextOutline names d.context.join
  rw [mentioned, List.flatMap_append, List.filter_append, ← hprompt, ← hcontext, templates]
  cases contextOutline names d.context.join with
  | none => exact (List.append_nil _).symm
  | some context => exact Outline.places_outlineAppend silent _ _

theorem places_parameters (names : List String) : Outline.places (parameters names) = names := by
  have hlines : Outline.places ([.fixed "\n"].intercalate (names.map line)) = names := by
    rw [Outline.places_intercalate, List.flatMap_map]
    exact List.flatMap_singleton' names
  exact hlines

/-- The arguments have places in the templates first and then in the lines of their own. -/
theorem places_outline (d : Declaration) (names : List String) (silent : String → Bool) :
    Outline.places (outline d names silent) =
      (mentioned d).filter (· ∈ names) ++ listed d names := by
  have htools : Outline.places
      [.fixed (withTools "" (ToolRefs.listed d.tools.join)
        (d.toolMode.join = some .sequential))] = [] := rfl
  rw [outline, Outline.places_append, htools, List.append_nil, ← places_templates d names silent]
  split
  · next hempty => rw [List.isEmpty_iff.1 hempty, List.append_nil]
  · rw [Outline.places_outlineAppend]
    exact congrArg _ (places_parameters (listed d names))

/-! ### Texts -/

section Rendered

variable {args : NamedArguments}

theorem renderContext_outline (h : arePrintable args.entries = true) (context : Option String) :
    renderContext context args.entries =
      .ok ((contextOutline args.names context).map fun o => ⟨o.filled args.said, o.places⟩) := by
  cases context with
  | none => rfl
  | some c =>
    rw [renderContext, contextOutline]
    split
    · rfl
    · rw [Template.render_outline h]
      rfl

theorem filled_templates (d : Declaration) (names : List String) (said : String → String) :
    (templates d names (Piece.silentIn said)).filled said =
      match contextOutline names d.context.join with
      | some context =>
        append ((Template.outline names d.prompt.join).filled said) (context.filled said)
      | none => (Template.outline names d.prompt.join).filled said := by
  rw [templates]
  cases contextOutline names d.context.join with
  | none => rfl
  | some context => exact Outline.filled_outlineAppend _ context

theorem filled_line (said : String → String) (name : String) :
    Outline.filled said (line name) = "- " ++ name ++ ": " ++ said name := by
  simp [line, Outline.filled, Piece.filled]

theorem filled_parameters (said : String → String) (names : List String) :
    Outline.filled said (parameters names) = "## Parameters\n" ++
      "\n".intercalate (names.map fun name => "- " ++ name ++ ": " ++ said name) := by
  rw [parameters, Outline.filled_cons, Outline.filled_intercalate, List.map_map]
  exact congrArg _ (congrArg _ (List.map_congr_left fun name _ => filled_line said name))

/-- The arguments left over are the listed ones, if just the mentioned ones were used. -/
theorem unused_entries (args : NamedArguments) (d : Declaration) {used : List String}
    (hused : ∀ name ∈ args.names, name ∈ used ↔ name ∈ mentioned d) :
    (unused args.entries used).map (·.1.display) = listed d args.names := by
  rw [unused, NamedArguments.entries, List.filter_map, List.map_map, listed, NamedArguments.names,
    keys, List.filter_map]
  have hfilter : ∀ e ∈ args.fields, (!used.any fun name => (Value.text e.1).isText name) =
      decide (e.1 ∉ mentioned d) := by
    intro e he
    have hname : e.1 ∈ args.names := List.mem_map_of_mem he
    simp [Value.isText, ← hused e.1 hname, List.any_beq]
  exact congrArg (List.map Prod.fst) (List.filter_congr hfilter)

/-- The listed arguments have the lines. -/
theorem parameterLines_unused (h : arePrintable args.entries = true) (d : Declaration)
    {used : List String} (hused : ∀ name ∈ args.names, name ∈ used ↔ name ∈ mentioned d) :
    parameterLines (unused args.entries used) =
      .ok ((listed d args.names).map fun name => "- " ++ name ++ ": " ++ args.said name) := by
  rw [← unused_entries args d hused, List.map_map]
  refine mapM_eq_ok fun e he => ?_
  obtain ⟨⟨name, v⟩, hmem, rfl⟩ := List.mem_map.1 (List.mem_filter.1 he).1
  have hv : args.fields.get? name = some v := get?_eq_some_of_mem args.nodup hmem
  show (stringify v).map _ = _
  rw [NamedArguments.stringify_eq_said h hv]
  rfl

theorem withTools_eq (text : String) (tools : List ListedTool) (sequential : Bool) :
    withTools text tools sequential = text ++ withTools "" tools sequential := by
  unfold withTools
  split
  · exact String.append_empty.symm
  · simp only [String.append_assoc, String.empty_append]

theorem filled_outline (d : Declaration) (names : List String) (said : String → String) :
    (outline d names (Piece.silentIn said)).filled said =
      withTools
        (if (listed d names).isEmpty then (templates d names (Piece.silentIn said)).filled said
        else
          append ((templates d names (Piece.silentIn said)).filled said)
            ((parameters (listed d names)).filled said))
        (ToolRefs.listed d.tools.join) (d.toolMode.join = some .sequential) := by
  rw [outline, Outline.filled_append]
  refine Eq.trans ?_ (withTools_eq _ _ _).symm
  congr 1
  split
  · rfl
  · exact Outline.filled_outlineAppend _ _

/-- The names in the templates that are those of arguments are the ones that are used. -/
theorem mem_used_iff (d : Declaration) {names : List String} {name : String} (h : name ∈ names) :
    name ∈ (Template.outline names d.prompt.join).places ++
        ((contextOutline names d.context.join).map Outline.places).getD [] ↔
      name ∈ mentioned d := by
  rw [Template.places_outline, places_contextOutline, ← List.filter_append,
    ← List.flatMap_append, ← mentioned, List.mem_filter]
  simp [h]

/-- The prompt of a call is its outline filled. -/
theorem ofDeclaration_eq (h : arePrintable args.entries = true) (d : Declaration) :
    ofDeclaration d args.entries =
      .ok ((outline d args.names (Piece.silentIn args.said)).filled args.said) := by
  have hlines := parameterLines_unused h d fun name hname => mem_used_iff d hname
  rw [ofDeclaration, Template.render_outline h, renderContext_outline h, filled_outline,
    filled_templates, filled_parameters]
  generalize contextOutline args.names d.context.join = context at hlines
  cases context with
  | none =>
    simp only [Option.map_none, Option.getD_none, bind, Except.bind] at hlines ⊢
    rw [hlines]
    simp only [List.isEmpty_map]
    rfl
  | some context =>
    simp only [Option.map_some, Option.getD_some, bind, Except.bind] at hlines ⊢
    rw [hlines]
    simp only [List.isEmpty_map]
    rfl

end Rendered

/-! ### The account -/

/-- All arguments of a call are accounted for in its text. -/
structure Accounted (d : Declaration) (args : NamedArguments) (text : String) : Prop where
  /-- Every argument says something. -/
  stringify_eq : ∀ name v, args.fields.get? name = some v → stringify v = .ok (args.said name)
  /-- In each place of the outline stands what the argument says, as it is. -/
  text_eq : text = (outline d args.names (Piece.silentIn args.said)).filled args.said
  /-- There are no places but those of the templates and, behind them, those of the lines. -/
  places_eq : (outline d args.names (Piece.silentIn args.said)).places =
    (mentioned d).filter (· ∈ args.names) ++ listed d args.names
  /-- The lines are in the order of the arguments. -/
  in_order : (listed d args.names).Sublist args.names
  /-- An argument is mentioned or has one line, and not both. -/
  once : ∀ name ∈ args.names,
    (name ∈ mentioned d ∧ name ∉ listed d args.names) ∨
      (name ∉ mentioned d ∧ (listed d args.names).count name = 1)
  /-- What it says stands in the text. -/
  occurs : ∀ name ∈ args.names, ∃ before behind, text = before ++ args.said name ++ behind

theorem mem_listed_iff (d : Declaration) (names : List String) (name : String) :
    name ∈ listed d names ↔ name ∈ names ∧ name ∉ mentioned d := by
  simp [listed]

theorem listed_or_mentioned (d : Declaration) (args : NamedArguments) {name : String}
    (h : name ∈ args.names) :
    (name ∈ mentioned d ∧ name ∉ listed d args.names) ∨
      (name ∉ mentioned d ∧ (listed d args.names).count name = 1) := by
  have hnodup : (listed d args.names).Nodup := List.Nodup.filter _ args.nodup
  by_cases hmentioned : name ∈ mentioned d
  · exact .inl ⟨hmentioned, fun hlisted => ((mem_listed_iff d _ _).1 hlisted).2 hmentioned⟩
  · exact .inr ⟨hmentioned,
      List.count_eq_one_of_mem hnodup ((mem_listed_iff d _ _).2 ⟨h, hmentioned⟩)⟩

theorem mem_places_outline (d : Declaration) {names : List String} (silent : String → Bool)
    {name : String} (h : name ∈ names) : name ∈ (outline d names silent).places := by
  rw [places_outline, List.mem_append, List.mem_filter, mem_listed_iff]
  by_cases hmentioned : name ∈ mentioned d
  · exact .inl ⟨hmentioned, decide_eq_true h⟩
  · exact .inr ⟨h, hmentioned⟩

/-- **No argument is lost.** If the prompt of a call is rendered, then every argument has a text,
which stands in the prompt or the context, or else on exactly one line of the parameters, where the
arguments are in the order of the call. All of the text is that of an outline with what they say in
its places, and the outline depends on what they say only for whether it is anything; so
placeholders in the text of an argument are not expanded in any section, that of tools included. -/
theorem arguments_accounted_for (d : Declaration) (args : NamedArguments) {text : String}
    (h : ofDeclaration d args.entries = .ok text) : Accounted d args text := by
  have hprintable : arePrintable args.entries = true := by
    have hok := isOk_ofDeclaration d args.nodup
    rw [← NamedArguments.entries, h] at hok
    exact hok.symm
  have htext := Except.ok.inj (h.symm.trans (ofDeclaration_eq hprintable d))
  refine
    { stringify_eq := fun name v hv => NamedArguments.stringify_eq_said hprintable hv
      text_eq := htext
      places_eq := places_outline d args.names _
      in_order := List.filter_sublist
      once := fun name hname => listed_or_mentioned d args hname
      occurs := fun name hname => ?_ }
  rw [htext]
  exact Outline.exists_filled_eq (mem_places_outline d _ hname)

/-- One argument is put into the prompt and a silent one into the context, and a third has a line.
What the first and the third say are placeholders of the others. -/
theorem arguments_accounted_for_braced :
    let d : Declaration :=
      { key := "greet", name := none, description := none, parameters := none, tools := none,
        toolMode := none, disabled := none, prompt := some (some "Hi \x7b\x7ba\x7d\x7d"),
        context := some (some "\x7b\x7b b \x7d\x7d\x7b\x7bx\x7d\x7d") }
    let args : NamedArguments :=
      ⟨[("a", .text "\x7b\x7bb\x7d\x7d"), ("b", .text ""), ("c", .text "\x7b\x7ba\x7d\x7d")],
        by decide⟩
    let text := "Hi \x7b\x7bb\x7d\x7d\n\n\x7b\x7bx\x7d\x7d\n\n## Parameters\n- c: \x7b\x7ba\x7d\x7d"
    ofDeclaration d args.entries = .ok text ∧ Accounted d args text := by
  intro d args text
  have h : ofDeclaration d args.entries = .ok text := eq_ok_of_toOption (by decide +kernel)
  exact ⟨h, arguments_accounted_for d args h⟩

end Prompt

end DeclaredTools
