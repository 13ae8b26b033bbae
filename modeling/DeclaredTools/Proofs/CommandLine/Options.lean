/-
  Options before a command. They are sorted apart from the words behind the command's name, so the
  program runs the command on those words in the session that the options open
  (`run_of_opens`). For presets and a directory that load there are options that open a
  session on them (`opens_of_load`).
-/
import DeclaredTools.CommandLine.Basic
import DeclaredTools.Proofs.Loading.Outcome
import DeclaredTools.Proofs.Result

namespace DeclaredTools.CommandLine

/-! ## Sorting -/

theorem isOption_of_toList {s : String} {c : Char} {cs : List Char}
    (h : s.toList = '-' :: c :: cs) : isOption s = true := by
  simp [isOption, ← String.length_toList, h]

namespace Usage

theorem exists_of_map_option {r : Except Misuse Words} {g : Given} {given : List Given}
    (h : r.map (·.option g) = .ok ⟨given, []⟩) :
    ∃ rest, r = .ok ⟨rest, []⟩ ∧ given = g :: rest := by
  obtain ⟨⟨rest, words⟩, hr, hw⟩ := Result.map_eq_ok h
  obtain ⟨hgiven, rfl⟩ := Words.mk.inj hw
  exact ⟨rest, hr, hgiven.symm⟩

/-- The name is that of an option with a value. -/
structure Takes (u : Usage) (name : String) : Prop where
  found : u.options.find? (·.name = name) = some ⟨name, true⟩
  option : isOption name = true
  hyphens : name ≠ "--"
  whole : splitPair name = (name, none)

/-- An option with its value in the next word. -/
theorem sort_option {u : Usage} {g : Given} (h : u.Takes g.name) (words : List String) :
    u.sort (g.name :: g.value :: words) = (u.sort words).map (·.option g) := by
  rw [sort, if_neg h.hyphens, if_pos h.option]
  simp [h.whole, h.found]

/-- Options as words, each with its value in a word of its own. -/
def written (given : List Given) : List String := given.flatMap fun g => [g.name, g.value]

/-- Options that are written so are given, in their order, in front of what is read behind them. -/
theorem sort_written {u : Usage} {given : List Given} (h : ∀ g ∈ given, u.Takes g.name)
    (words : List String) :
    u.sort (written given ++ words) =
      (u.sort words).map fun w => { w with options := given ++ w.options } := by
  induction given with
  | nil =>
    show u.sort words = (u.sort words).map id
    cases u.sort words <;> rfl
  | cons g given ih =>
    have hrest := ih fun other hother => h other (List.mem_cons_of_mem g hother)
    show u.sort (g.name :: g.value :: (written given ++ words)) = _
    rw [sort_option (h g List.mem_cons_self), hrest]
    cases u.sort words <;> rfl

/-- Words that are all options stay so in front of a word that is none; it and what is behind it
are left. -/
theorem sort_append {u : Usage} (hmixed : u.mixed = false) {name : String}
    (hname : name ≠ "--") (hoption : isOption name = false) (behind : List String)
    {options : List String} {given : List Given} (h : u.sort options = .ok ⟨given, []⟩) :
    u.sort (options ++ name :: behind) = .ok ⟨given, name :: behind⟩ := by
  fun_induction Usage.sort u options generalizing given with
  | case1 =>
    obtain ⟨rfl, _⟩ := Words.mk.inj (Except.ok.inj h)
    rw [List.nil_append, sort, if_neg hname, if_neg (by simp [hoption]), if_neg (by simp [hmixed])]
  | case2 words =>
    obtain ⟨rfl, rfl⟩ := Words.mk.inj (Except.ok.inj h)
    rw [List.cons_append, sort, if_pos rfl, List.nil_append]
  | case4 s words hs hopt key o value hfind htakes hsplit ih =>
    obtain ⟨rest, hrest, rfl⟩ := exists_of_map_option h
    rw [List.cons_append, sort, if_neg hs, if_pos hopt, hsplit]
    simp only [hfind, htakes, if_true]
    rw [ih hrest]
    rfl
  | case6 s words hs hopt key o hfind htakes hsplit ih =>
    obtain ⟨rest, hrest, rfl⟩ := exists_of_map_option h
    rw [List.cons_append, sort, if_neg hs, if_pos hopt, hsplit]
    simp only [hfind, htakes, if_true]
    rw [ih hrest]
    rfl
  | case8 s hs hopt key o hfind htakes next words hsplit ih =>
    obtain ⟨rest, hrest, rfl⟩ := exists_of_map_option h
    rw [List.cons_append, sort, if_neg hs, if_pos hopt, hsplit]
    simp only [hfind, htakes, List.cons_append]
    rw [ih hrest]
    rfl
  | case9 s words hs hopt hmix _ =>
    rw [hmixed] at hmix
    cases hmix
  | case10 s words hs hopt _ => cases h
  | case3 | case5 | case7 => cases h

end Usage

/-! ## The command's name -/

namespace Command

theorem lookup_name (c : Command) : table.lookup c.name = some c := by
  cases c <;> decide

theorem isOption_name (c : Command) : isOption c.name = false := by
  cases c <;> simp [isOption, name]

theorem name_ne_hyphens (c : Command) : c.name ≠ "--" := by
  cases c <;> decide

end Command

/-! ## Sessions -/

/-- The words are options that ask for no help, and with what they say a session starts. -/
def Opens (around : Surroundings) (options : List String) (s : Session) : Prop :=
  ∃ given p, readProgram around.files options = .ok (⟨given, []⟩, some p) ∧
    Session.start around p = .ok s

/-- The same options in front of a command's name. -/
theorem readProgram_append {fs : FileSystem} {options : List String} {given : List Given}
    {p : Preferences} (h : readProgram fs options = .ok (⟨given, []⟩, some p)) (c : Command)
    (words : List String) :
    readProgram fs (options ++ c.name :: words) = .ok (⟨given, c.name :: words⟩, some p) := by
  unfold readProgram at h ⊢
  cases hsort : programUsage.sort options with
  | error m =>
    rw [hsort] at h
    cases h
  | ok w =>
    rw [hsort] at h
    dsimp only at h
    cases hhelp : w.has "--help" with
    | true =>
      rw [hhelp] at h
      cases h
    | false =>
      rw [hhelp, if_neg Bool.false_ne_true] at h
      obtain ⟨q, hq, hwords⟩ := Result.map_eq_ok h
      obtain ⟨rfl, hqp⟩ := Prod.mk.inj hwords
      rw [Usage.sort_append rfl c.name_ne_hyphens c.isOption_name words hsort]
      have hhelp' : (⟨given, c.name :: words⟩ : Words).has "--help" = false := hhelp
      have hq' : Preferences.ofWords fs ⟨given, c.name :: words⟩ = .ok q := hq
      dsimp only
      rw [hhelp', if_neg Bool.false_ne_true, hq', ← hqp]
      rfl

/-- Behind options that open a session a command works in it. -/
theorem run_of_opens {around : Surroundings} {options : List String} {s : Session}
    (h : Opens around options s) (c : Command) (words : List String) :
    run around (options ++ c.name :: words) = (c.run s words).plain := by
  obtain ⟨given, p, hread, hstart⟩ := h
  have hwords : (options ++ c.name :: words).isEmpty = false := by
    rw [List.isEmpty_eq_false_iff]
    exact List.append_ne_nil_of_right_ne_nil options (List.cons_ne_nil _ _)
  unfold run outcome
  rw [hwords, if_neg Bool.false_ne_true, readProgram_append hread c words]
  dsimp only
  rw [c.lookup_name]
  dsimp only
  rw [hstart]

/-- A session starts when the settings are read and the declarations load. -/
theorem start_of_load {around : Surroundings} {settings : Settings} {p : Preferences}
    {presets : List String} {directory : Option Path} {set : DeclarationSet}
    (hsettings : around.settings = .ok settings)
    (hpresets : (if p.presets.isEmpty then settings.presetNames else p.presets) = presets)
    (hdirectory : p.directory.or settings.directory = directory)
    (hload : ((around.loader settings).load presets directory).outcome = .ok set) :
    Session.start around p =
      .ok ⟨around.loader settings, presets, directory, p.json, .ofSet set⟩ := by
  subst hpresets hdirectory
  show (around.settings.bind fun settings => _) = _
  rw [hsettings]
  show (Except.bind (loadRegistry (around.loader settings) _ _) fun registry => _) = _
  rw [loadRegistry, hload]
  rfl

/-- A session works with declarations that have been loaded. -/
theorem load_of_opens {around : Surroundings} {options : List String} {s : Session}
    (h : Opens around options s) :
    ∃ set, (s.loader.load s.presets s.directory).outcome = .ok set ∧ s.registry = .ofSet set := by
  obtain ⟨given, p, _, h⟩ := h
  unfold Session.start at h
  cases hsettings : around.settings with
  | error f =>
    rw [hsettings] at h
    cases h
  | ok settings =>
    rw [hsettings] at h
    change Except.bind (loadRegistry (around.loader settings) _ _) (fun registry => _) = _ at h
    unfold loadRegistry at h
    split at h
    · next set hset =>
      obtain rfl := Except.ok.inj h
      exact ⟨set, hset, rfl⟩
    · cases h

/-! ## Options that ask for presets and a directory -/

/-- The options that name presets and, if there is one, a directory. -/
def sourceOptions (presets : List String) (directory : Option String) : List Given :=
  presets.map (Given.mk "--preset") ++ directory.toList.map (Given.mk "--config-dir")

theorem takes_preset : programUsage.Takes "--preset" :=
  ⟨rfl, isOption_of_toList rfl, by decide, rfl⟩

theorem takes_configDir : programUsage.Takes "--config-dir" :=
  ⟨rfl, isOption_of_toList rfl, by decide, rfl⟩

/-- The words of the options, sorted. -/
def sourceWords (presets : List String) (directory : Option String) : Words :=
  ⟨sourceOptions presets directory, []⟩

theorem mem_sourceOptions {presets : List String} {directory : Option String} {g : Given}
    (h : g ∈ sourceOptions presets directory) : g.name = "--preset" ∨ g.name = "--config-dir" := by
  rcases List.mem_append.1 h with h | h
  · obtain ⟨name, _, rfl⟩ := List.mem_map.1 h
    exact Or.inl rfl
  · obtain ⟨d, _, rfl⟩ := List.mem_map.1 h
    exact Or.inr rfl

theorem values_sourceWords (presets : List String) (directory : Option String) :
    (sourceWords presets directory).values "--preset" = presets ∧
      (sourceWords presets directory).values "--config-dir" = directory.toList ∧
      (sourceWords presets directory).values "--format" = [] := by
  simp [sourceWords, sourceOptions, Words.values, List.filter_map, Function.comp_def]

theorem value?_sourceWords (presets : List String) (directory : Option String) :
    (sourceWords presets directory).value? "--config-dir" = directory ∧
      (sourceWords presets directory).value? "--format" = none := by
  obtain ⟨_, hdirectory, hformat⟩ := values_sourceWords presets directory
  unfold Words.value?
  rw [hdirectory, hformat]
  cases directory <;> exact ⟨rfl, rfl⟩

theorem check_sourceWords {fs : FileSystem} (presets : List String) {directory : Option String}
    (h : ∀ d ∈ directory, (Path.ofText d).hasNull = false ∧ fs.holdsFile d = false)
    {name : String} (hname : name = "--preset" ∨ name = "--config-dir") :
    Preferences.check fs (sourceWords presets directory) name = .ok () := by
  unfold Preferences.check
  rcases hname with rfl | rfl
  · cases (sourceWords presets directory).value? "--preset" with
    | none => rfl
    | some value => simp
  · rw [(value?_sourceWords presets directory).1]
    cases directory with
    | none => rfl
    | some d =>
      obtain ⟨hnull, hfile⟩ := h d rfl
      simp [hnull, hfile]

/-- The options make the preferences unless the directory is refused. -/
theorem readProgram_sourceOptions {fs : FileSystem} (presets : List String)
    {directory : Option String}
    (h : ∀ d ∈ directory, (Path.ofText d).hasNull = false ∧ fs.holdsFile d = false) :
    readProgram fs (Usage.written (sourceOptions presets directory)) =
      .ok (sourceWords presets directory, some ⟨presets, directory.map Path.ofText, false⟩) := by
  have htakes : ∀ g ∈ sourceOptions presets directory, programUsage.Takes g.name := by
    intro g hg
    rcases mem_sourceOptions hg with hname | hname
    · rw [hname]
      exact takes_preset
    · rw [hname]
      exact takes_configDir
  have hsort : programUsage.sort (Usage.written (sourceOptions presets directory)) =
      .ok (sourceWords presets directory) := by
    have happend := Usage.sort_written htakes []
    rw [List.append_nil] at happend
    rw [happend, Usage.sort]
    show Except.ok (⟨sourceOptions presets directory ++ [], []⟩ : Words) = _
    rw [List.append_nil]
    rfl
  have hhelp : (sourceWords presets directory).has "--help" = false := by
    apply List.any_eq_false.2
    intro g hg
    rcases mem_sourceOptions hg with hname | hname <;> simp [hname]
  have hchecks : (sourceWords presets directory).names.forM
      (Preferences.check fs (sourceWords presets directory)) = .ok () := by
    apply Result.forM_eq_ok
    intro name hname
    obtain ⟨g, hg, rfl⟩ := List.mem_map.1 (List.mem_eraseDups.1 hname)
    exact check_sourceWords presets h (mem_sourceOptions hg)
  unfold readProgram
  rw [hsort]
  dsimp only
  rw [hhelp, if_neg Bool.false_ne_true]
  unfold Preferences.ofWords
  rw [hchecks, (values_sourceWords presets directory).1, (value?_sourceWords presets directory).1,
    (value?_sourceWords presets directory).2]
  rfl

/-- Presets and a directory that load are what some options open a session on. Without presets
those of the settings are loaded. -/
theorem opens_of_load {around : Surroundings} {settings : Settings}
    (hsettings : around.settings = .ok settings) {names presets : List String}
    (hpresets : (if names.isEmpty then settings.presetNames else names) = presets)
    {directory : Option String} (hdirectory : ∀ d ∈ directory, around.files.holdsFile d = false)
    {set : DeclarationSet}
    (hload : ((around.loader settings).load presets
      ((directory.map Path.ofText).or settings.directory)).outcome = .ok set) :
    Opens around (Usage.written (sourceOptions names directory))
      ⟨around.loader settings, presets, (directory.map Path.ofText).or settings.directory, false,
        .ofSet set⟩ := by
  have hplace := (((around.loader settings).outcome_load_eq_ok_iff _ _ set).1 hload).1.directory
  have hrefused : ∀ d ∈ directory,
      (Path.ofText d).hasNull = false ∧ around.files.holdsFile d = false := by
    intro d hd
    obtain rfl : directory = some d := hd
    exact ⟨(hplace (Path.ofText d) rfl).1, hdirectory d rfl⟩
  exact ⟨_, _, readProgram_sourceOptions names hrefused, start_of_load hsettings hpresets rfl hload⟩

/-- A workflow directory whose files can be read opens a session without presets. -/
theorem opens_of_workflow {around : Surroundings} {settings : Settings}
    (hsettings : around.settings = .ok settings) (hpresets : settings.presetNames = [])
    {directory : String} (hdirectory : around.files.holdsFile directory = false)
    (hplace : (around.loader settings).PlaceSearchable (.ofText directory))
    (hfiles : ((around.loader settings).directoryPaths (.ofText directory)).all fun p =>
      (Document.load around.setOrder around.files p).outcome.isOk) :
    ∃ registry, Opens around ["--config-dir", directory]
      ⟨around.loader settings, [], some (.ofText directory), false, registry⟩ := by
  have hread : ∀ p ∈ (around.loader settings).sourcePaths [] (some (.ofText directory)),
      Document.Readable around.setOrder around.files p := by
    intro p hp
    rw [Loader.sourcePaths_some] at hp
    obtain ⟨set, hset⟩ := Result.isOk_eq_true_iff.1 (List.all_eq_true.1 hfiles p hp)
    exact ((Document.outcome_load_eq_ok_iff _ _ p set).1 hset).1
  have hsearch : (around.loader settings).SourcesSearchable [] (some (.ofText directory)) := by
    refine ⟨?_, ?_⟩
    · rintro ⟨name, hname, _⟩
      cases hname
    · intro d hd
      exact Option.some.inj hd ▸ hplace
  have hload := ((around.loader settings).outcome_load_eq_ok_iff _ _ _).2 ⟨hsearch, hread, rfl⟩
  have hfile : ∀ d ∈ some directory, around.files.holdsFile d = false := by
    rintro d ⟨⟩
    exact hdirectory
  have hpresetNames : (if ([] : List String).isEmpty then settings.presetNames else []) = [] :=
    hpresets
  exact ⟨_, opens_of_load hsettings hpresetNames hfile hload⟩

end DeclaredTools.CommandLine
