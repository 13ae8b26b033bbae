/-
  Arguments on the command line. They are written as one object, or one by one as pairs of a name
  and a text; the object is read first, and the pairs are put into it one after the other. What a
  call writes depends on the members only, not on the form in which they are written nor on their
  order (`call_object_eq_call_pairs`).
-/
import DeclaredTools.Proofs.CommandLine.Options
import DeclaredTools.Proofs.OrderedMap
import DeclaredTools.Proofs.Registry.DeclaredArguments

namespace DeclaredTools

/-! ## Members -/

namespace Value

/-- The entries of an object with these members. -/
def fields (members : OrderedMap Value) : Arguments := members.map fun (k, v) => (.text k, v)

theorem ofFields_eq_map (members : OrderedMap Value) : ofFields members = .map (fields members) :=
  rfl

theorem insertEntry_fields (members : OrderedMap Value) (name : String) (v : Value) :
    insertEntry (.text name) v (fields members) = fields (members.insert name v) := by
  induction members with
  | nil => rfl
  | cons m members ih =>
    obtain ⟨key, old⟩ := m
    show (if same (.text name) (.text key) then (.text key, v) :: fields members
      else (.text key, old) :: insertEntry (.text name) v (fields members)) = _
    have hsame : same (.text name) (.text key) = (name == key) := by
      simp [same, sameAtom]
    rw [hsame, ih, OrderedMap.insert]
    by_cases hkey : key = name
    · rw [if_pos hkey, if_pos (beq_iff_eq.2 hkey.symm)]
      rfl
    · rw [if_neg hkey, if_neg (mt beq_iff_eq.1 (Ne.symm hkey))]
      rfl

theorem hasDistinctTexts_fields {members : OrderedMap Value} (h : members.keys.Nodup) :
    HasDistinctTexts (fields members) := by
  have hkeys : members.Pairwise fun m n => m.1 ≠ n.1 := List.pairwise_map.1 h
  refine List.pairwise_map.2 (hkeys.imp ?_)
  intro m n hmn s hm hn
  exact hmn ((Value.text.inj hm).trans (Value.text.inj hn).symm)

end Value

/-- The order of the arguments does not matter to a call. -/
theorem Registry.outcome_invoke_of_perm (r : Registry) (name : String) {es fs : Arguments}
    (hperm : es.Perm fs) (hdistinct : Value.HasDistinctTexts es) :
    (r.invoke name (.map es)).outcome = (r.invoke name (.map fs)).outcome := by
  rw [outcome_invoke, outcome_invoke]
  cases (r.get name).outcome with
  | error e => rfl
  | ok tool => exact Tool.call_eq_of_alike (Shape.alike_of_perm _ _ hperm hdistinct)

namespace CommandLine

/-! ## Words -/

/-- The option that gives all arguments as one object. -/
def objectOption (text : String) : Given := ⟨"--json-args", text⟩

/-- The option that gives one argument: its name, an equals sign, the text of its value. -/
def pairOption (pair : String × String) : Given := ⟨"--arg", pair.1 ++ "=" ++ pair.2⟩

/-- The words of a call. -/
def callWords (name : String) (given : List Given) : List String :=
  "call" :: name :: Usage.written given

theorem takes_arg : Command.call.usage.Takes "--arg" :=
  ⟨rfl, isOption_of_toList rfl, by decide, rfl⟩

theorem takes_jsonArgs : Command.call.usage.Takes "--json-args" :=
  ⟨rfl, isOption_of_toList rfl, by decide, rfl⟩

/-- The options give arguments and nothing else. -/
def AreArguments (given : List Given) : Prop :=
  ∀ g ∈ given, g.name = "--arg" ∨ g.name = "--json-args"

theorem has_help_of_areArguments {given : List Given} (h : AreArguments given)
    (rest : List String) : (⟨given, rest⟩ : Words).has "--help" = false := by
  apply List.any_eq_false.2
  intro g hg
  rcases h g hg with hg | hg <;> simp [hg]

theorem read_call {name : String} (hname : name.startsWith "-" = false) {given : List Given}
    (hgiven : AreArguments given) :
    Command.call.usage.read (name :: Usage.written given) = .ok ⟨given, [name]⟩ := by
  have hhyphens : name ≠ "--" := by
    rintro rfl
    simp at hname
  have hoption : isOption name = false := by
    rw [isOption, hname, Bool.false_and]
  have htakes : ∀ g ∈ given, Command.call.usage.Takes g.name := by
    intro g hg
    rcases hgiven g hg with hg | hg
    · rw [hg]
      exact takes_arg
    · rw [hg]
      exact takes_jsonArgs
  have hsort : Command.call.usage.sort (name :: Usage.written given) = .ok ⟨given, [name]⟩ := by
    have hwritten := Usage.sort_written htakes []
    rw [List.append_nil] at hwritten
    have hmixed : Command.call.usage.mixed = true := rfl
    rw [Usage.sort, if_neg hhyphens, if_neg (by simp [hoption]), if_pos hmixed, hwritten,
      Usage.sort]
    show Except.ok (⟨given ++ [], [name]⟩ : Words) = _
    rw [List.append_nil]
  have hhelp := has_help_of_areArguments hgiven [name]
  unfold Usage.read
  rw [hsort]
  show (if Words.has ⟨given, [name]⟩ "--help" = true then _ else _) = _
  rw [hhelp]
  rfl

theorem run_call {around : Surroundings} {options : List String} {s : Session}
    (h : Opens around options s) {name : String} (hname : name.startsWith "-" = false)
    {given : List Given} (hgiven : AreArguments given) :
    run around (options ++ callWords name given) =
      (Command.runCall s name ((⟨given, []⟩ : Words).value? "--json-args")
        ((⟨given, []⟩ : Words).values "--arg")).plain := by
  have hhelp := has_help_of_areArguments hgiven [name]
  have hrun : Command.call.run s (name :: Usage.written given) =
      Command.runCall s name ((⟨given, []⟩ : Words).value? "--json-args")
        ((⟨given, []⟩ : Words).values "--arg") := by
    unfold Command.run
    rw [read_call hname hgiven]
    dsimp only
    rw [hhelp]
    rfl
  rw [callWords, show "call" = Command.call.name from rfl, run_of_opens h, hrun]

/-! ## What the words say -/

theorem splitPair_append {key : String} (h : '=' ∉ key.toList) (text : String) :
    splitPair (key ++ "=" ++ text) = (key, some text) := by
  have hchars : (key ++ "=" ++ text).toList = key.toList ++ '=' :: text.toList := by
    rw [String.toList_append, String.toList_append, List.append_assoc]
    rfl
  have hkey : ∀ c ∈ key.toList, decide (c ≠ '=') = true := by
    intro c hc
    apply decide_eq_true
    rintro rfl
    exact h hc
  unfold splitPair
  dsimp only
  rw [hchars, List.dropWhile_append_of_pos hkey, List.takeWhile_append_of_pos hkey,
    List.dropWhile_cons_of_neg (by decide), List.takeWhile_cons_of_neg (by decide)]
  dsimp only
  rw [List.append_nil, String.ofList_toList, String.ofList_toList]

/-- A member whose value is written as a JSON text. -/
def IsWritten (member : String × Value) (pair : String × String) : Prop :=
  member.1 = pair.1 ∧ Json.read pair.2 = .ok member.2

theorem addPair_fields {members : OrderedMap Value} {member : String × Value}
    {pair : String × String} (h : IsWritten member pair) (hkey : '=' ∉ member.1.toList) :
    Command.addPair (Value.fields members) (pairOption pair).value =
      .ok (Value.fields (members.insert member.1 member.2)) := by
  obtain ⟨key, v⟩ := member
  obtain ⟨name, text⟩ := pair
  obtain ⟨rfl, hread⟩ := h
  have hvalue : Command.pairValue text = .ok v := by
    dsimp only at hread
    rw [Command.pairValue, hread]
  unfold Command.addPair pairOption
  dsimp only
  rw [splitPair_append hkey]
  dsimp only
  rw [hvalue, ← Value.insertEntry_fields]
  rfl

/-- Pairs are put into the arguments one after the other. -/
theorem foldlM_addPair {more : List (String × Value)} {pairs : List (String × String)}
    (h : List.Forall₂ IsWritten more pairs) (hkeys : ∀ m ∈ more, '=' ∉ m.1.toList)
    (members : OrderedMap Value) :
    (pairs.map fun pair => (pairOption pair).value).foldlM Command.addPair (Value.fields members) =
      .ok (Value.fields (members.insertAll more)) := by
  induction h generalizing members with
  | nil => rfl
  | @cons member pair more pairs hpair _ ih =>
    have hrest := ih (fun m hm => hkeys m (List.mem_cons_of_mem _ hm))
      (members.insert member.1 member.2)
    rw [List.map_cons, List.foldlM_cons, addPair_fields hpair (hkeys member List.mem_cons_self)]
    exact hrest

theorem objectArguments_of_read {text : String} {members : OrderedMap Value}
    (h : Json.read text = .ok (.ofFields members)) :
    Command.objectArguments (some text) = .ok (Value.fields members) := by
  have hne : text ≠ "" := by
    rintro rfl
    have hempty : (Json.read "").isOk = false := by decide
    rw [h] at hempty
    cases hempty
  unfold Command.objectArguments
  dsimp only
  rw [if_neg hne, h]
  rfl

theorem filter_pairOption (pairs : List (String × String)) :
    (pairs.map pairOption).filter (·.name = "--arg") = pairs.map pairOption ∧
      (pairs.map pairOption).filter (·.name = "--json-args") = [] := by
  constructor
  · apply List.filter_eq_self.2
    intro g hg
    obtain ⟨pair, _, rfl⟩ := List.mem_map.1 hg
    rfl
  · apply List.filter_eq_nil_iff.2
    intro g hg
    obtain ⟨pair, _, rfl⟩ := List.mem_map.1 hg
    simp [pairOption]

theorem areArguments_pairs (pairs : List (String × String)) :
    AreArguments (pairs.map pairOption) := by
  intro g hg
  obtain ⟨pair, _, rfl⟩ := List.mem_map.1 hg
  exact Or.inl rfl

/-! ## Calls -/

section

variable {around : Surroundings} {options : List String} {s : Session} {name : String}
  {more : List (String × Value)}

/-- What a call with these members writes. -/
def calledWith (s : Session) (name : String) (members : OrderedMap Value) : Outcome :=
  (Command.answered name (s.registry.invoke name (.ofFields members)).outcome).plain

theorem run_call_pairs (h : Opens around options s) (hname : name.startsWith "-" = false)
    {pairs : List (String × String)} (hpairs : List.Forall₂ IsWritten more pairs)
    (hkeys : ∀ m ∈ more, '=' ∉ m.1.toList) :
    run around (options ++ callWords name (pairs.map pairOption)) =
      calledWith s name (.ofEntries more) := by
  have hvalues : (⟨pairs.map pairOption, []⟩ : Words).values "--arg" =
      pairs.map fun pair => (pairOption pair).value := by
    rw [Words.values, (filter_pairOption pairs).1, List.map_map]
    rfl
  have hnone : (⟨pairs.map pairOption, []⟩ : Words).value? "--json-args" = none := by
    rw [Words.value?, Words.values, (filter_pairOption pairs).2]
    rfl
  have harguments : Command.callArguments none (pairs.map fun pair => (pairOption pair).value) =
      .ok (Value.fields (.ofEntries more)) := foldlM_addPair hpairs hkeys []
  rw [run_call h hname (areArguments_pairs pairs), hvalues, hnone, Command.runCall, harguments]
  rfl

/-- The object may stand anywhere among the pairs. -/
theorem run_call_object (h : Opens around options s) (hname : name.startsWith "-" = false)
    {members : OrderedMap Value} {text : String} (htext : Json.read text = .ok (.ofFields members))
    {before behind : List (String × String)}
    (hpairs : List.Forall₂ IsWritten more (before ++ behind))
    (hkeys : ∀ m ∈ more, '=' ∉ m.1.toList) :
    run around (options ++ callWords name
        (before.map pairOption ++ objectOption text :: behind.map pairOption)) =
      calledWith s name (members.insertAll more) := by
  have hgiven :
      AreArguments (before.map pairOption ++ objectOption text :: behind.map pairOption) := by
    intro g hg
    rcases List.mem_append.1 hg with hg | hg
    · exact areArguments_pairs before g hg
    · rcases List.mem_cons.1 hg with rfl | hg
      · exact Or.inr rfl
      · exact areArguments_pairs behind g hg
  have hvalues : (⟨before.map pairOption ++ objectOption text :: behind.map pairOption, []⟩ :
      Words).values "--arg" = (before ++ behind).map fun pair => (pairOption pair).value := by
    rw [Words.values, List.filter_append, (filter_pairOption before).1,
      List.filter_cons_of_neg (by simp [objectOption]), (filter_pairOption behind).1,
      ← List.map_append, List.map_map]
    rfl
  have hvalue : (⟨before.map pairOption ++ objectOption text :: behind.map pairOption, []⟩ :
      Words).value? "--json-args" = some text := by
    rw [Words.value?, Words.values, List.filter_append, (filter_pairOption before).2,
      List.filter_cons_of_pos (by simp [objectOption]), (filter_pairOption behind).2]
    rfl
  have harguments : Command.callArguments (some text)
      ((before ++ behind).map fun pair => (pairOption pair).value) =
      .ok (Value.fields (members.insertAll more)) := by
    unfold Command.callArguments
    rw [objectArguments_of_read htext]
    exact foldlM_addPair hpairs hkeys members
  rw [run_call h hname hgiven, hvalues, hvalue, Command.runCall, harguments]
  rfl

theorem calledWith_of_perm {members others : OrderedMap Value} (hperm : members.Perm others)
    (hmembers : members.keys.Nodup) : calledWith s name members = calledWith s name others := by
  have hfields : (Value.fields members).Perm (Value.fields others) := hperm.map _
  have houtcome := s.registry.outcome_invoke_of_perm name hfields
    (Value.hasDistinctTexts_fields hmembers)
  unfold calledWith
  rw [Value.ofFields_eq_map, Value.ofFields_eq_map, houtcome]

/-- **Both ways of writing arguments agree.** Options open a session, and a tool is called whose
name is not read as an option. An object that is written as one JSON text gives what its members
give that are written one by one, in any order; and if both are written, in any order, the members
are put into the object. Both hold whatever the call leads to: a prompt, issues, or an error. -/
theorem call_object_eq_call_pairs (h : Opens around options s)
    (hname : name.startsWith "-" = false) {members : OrderedMap Value}
    (hmembers : members.keys.Nodup) {text : String}
    (htext : Json.read text = .ok (.ofFields members)) :
    (∀ others pairs, members.Perm others → List.Forall₂ IsWritten others pairs →
      (∀ m ∈ others, '=' ∉ m.1.toList) →
        run around (options ++ callWords name [objectOption text]) =
          run around (options ++ callWords name (pairs.map pairOption))) ∧
    ∀ more before behind both, List.Forall₂ IsWritten more (before ++ behind) →
      (∀ m ∈ more, '=' ∉ m.1.toList) →
      Json.read both = .ok (.ofFields (members.insertAll more)) →
        run around (options ++ callWords name
            (before.map pairOption ++ objectOption text :: behind.map pairOption)) =
          run around (options ++ callWords name [objectOption both]) := by
  have hobject : ∀ {text' : String} {members' : OrderedMap Value},
      Json.read text' = .ok (.ofFields members') →
        run around (options ++ callWords name [objectOption text']) =
          calledWith s name members' := by
    intro text' members' hread
    have hpairs : List.Forall₂ IsWritten [] (([] : List (String × String)) ++ []) := .nil
    have hcall := run_call_object h hname hread hpairs (by simp)
    rw [List.map_nil, List.nil_append] at hcall
    exact hcall
  constructor
  · intro others pairs hperm hpairs hkeys
    have hnodup : (OrderedMap.keys others).Nodup := (hperm.map Prod.fst).nodup_iff.1 hmembers
    rw [hobject htext, run_call_pairs h hname hpairs hkeys, OrderedMap.ofEntries_eq_self hnodup]
    exact calledWith_of_perm hperm hmembers
  · intro more before behind both hpairs hkeys hboth
    rw [hobject hboth, run_call_object h hname htext hpairs hkeys]

end

/-- A workflow directory with a tool that takes a text and a number. -/
def tally : Surroundings where
  files := ⟨["w"], [(["w", ".workflows"], .directory), (["w", ".workflows", "a.yaml"],
    .file ("t:\n  prompt: go\n  parameters:\n    a:\n      type: string\n" ++
      "    b:\n      type: number\n").toUTF8.toList)]⟩
  environment := []
  setOrder := .insertion

theorem opens_tally : ∃ s, Opens tally ["--config-dir", ".workflows"] s := by
  have hsettings : tally.settings = .ok ⟨"", none, "", 8400, "INFO"⟩ := rfl
  have hdirectory : tally.files.holdsFile ".workflows" = false := by decide
  obtain ⟨registry, hopens⟩ := opens_of_workflow hsettings rfl hdirectory
    ⟨by decide, by decide +kernel⟩ (by decide +kernel)
  exact ⟨_, hopens⟩

/-- The object with a text and this number. -/
def tallied (n : String) : String := "\x7b\"a\": \"x\", \"b\": " ++ n ++ "\x7d"

theorem read_tallied {text : String} {n : Int}
    (h : (match Json.read text with
      | .ok (.map [(.text "a", .text "x"), (.text "b", .int m)]) => m == n
      | _ => false) = true) :
    Json.read text = .ok (.ofFields [("a", .text "x"), ("b", .int n)]) := by
  split at h
  · next m heq =>
    rw [heq, beq_iff_eq.1 h]
    rfl
  · cases h

theorem isWritten_number {text : String} {n : Int}
    (h : (match Json.read text with
      | .ok (.int m) => m == n
      | _ => false) = true) : IsWritten ("b", .int n) ("b", text) := by
  split at h
  · next m heq => exact ⟨rfl, heq.trans (by rw [beq_iff_eq.1 h])⟩
  · cases h

theorem isWritten_text : IsWritten ("a", .text "x") ("a", "\"x\"") := by
  have htext : (Json.read "\"x\"").toOption.any (Value.isText "x") = true := by decide +kernel
  obtain ⟨v, hv, hx⟩ := (Option.any_eq_true _ _).1 htext
  refine ⟨rfl, (Result.eq_ok_of_toOption hv).trans ?_⟩
  rw [Value.isText_iff.1 hx]

theorem call_object_eq_call_pairs_tally :
    run tally ["--config-dir", ".workflows", "call", "t", "--json-args", tallied "2"] =
        run tally ["--config-dir", ".workflows", "call", "t", "--arg", "b=2", "--arg", "a=\"x\""] ∧
      run tally ["--config-dir", ".workflows", "call", "t", "--arg", "b=3", "--json-args",
          tallied "2"] =
        run tally ["--config-dir", ".workflows", "call", "t", "--json-args", tallied "3"] := by
  obtain ⟨s, hopens⟩ := opens_tally
  have hpairs : List.Forall₂ IsWritten [("b", .int 2), ("a", .text "x")]
      [("b", "2"), ("a", "\"x\"")] :=
    .cons (isWritten_number (by decide +kernel)) (.cons isWritten_text .nil)
  have hthree : List.Forall₂ IsWritten [("b", .int 3)] ([("b", "3")] ++ []) :=
    .cons (isWritten_number (by decide +kernel)) .nil
  have hmembers : (OrderedMap.keys [("a", Value.text "x"), ("b", .int 2)]).Nodup := by
    decide +kernel
  have hname : "t".startsWith "-" = false := by simp
  have htext : Json.read (tallied "2") = .ok (.ofFields [("a", .text "x"), ("b", .int 2)]) :=
    read_tallied (by decide +kernel)
  have hboth : Json.read (tallied "3") = .ok (.ofFields [("a", .text "x"), ("b", .int 3)]) :=
    read_tallied (by decide +kernel)
  obtain ⟨hfirst, hsecond⟩ := call_object_eq_call_pairs hopens hname hmembers htext
  have hleft := hfirst _ _ (.swap _ _ []) hpairs (by decide)
  have hright := hsecond _ _ _ _ hthree (by decide) hboth
  have hpairWords : callWords "t" ([("b", "2"), ("a", "\"x\"")].map pairOption) =
      ["call", "t", "--arg", "b=2", "--arg", "a=\"x\""] := by decide
  have hbothWords : callWords "t"
      ([("b", "3")].map pairOption ++ objectOption (tallied "2") :: [].map pairOption) =
        ["call", "t", "--arg", "b=3", "--json-args", tallied "2"] := by decide
  rw [hpairWords] at hleft
  rw [hbothWords] at hright
  exact ⟨hleft, hright⟩

end CommandLine

end DeclaredTools
