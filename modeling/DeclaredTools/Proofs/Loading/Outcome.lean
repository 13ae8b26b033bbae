/-
  Outcomes of loading. Every step of the loader has one lemma: when it has a result, and which.
  A step has a result unless a name cannot be looked up or a document holds something other than a
  document, and the result is always a fold of `DeclarationSet.merge` over the contents of files:
  `outcome_loadFile_eq_ok_iff`, `outcome_loadPresets_eq_ok_iff`, `outcome_loadDirectory_eq_ok_iff`,
  `outcome_sourceFiles_eq_ok_iff`.
-/
import DeclaredTools.Loading.Basic
import DeclaredTools.Proofs.Merging.DeclarationSet
import DeclaredTools.Proofs.Report
import Mathlib.Tactic.MkIffOfInductiveProp

namespace DeclaredTools

open Report

/-! ## Documents -/

namespace Document

/-- Nothing but a malformed document is wrong with the file, if there is one, and the texts that
reading its entries takes can be written. -/
@[mk_iff]
structure Readable (order : SetOrder) (fs : FileSystem) (p : Path) : Prop where
  name : p.hasNull = false
  document : ∀ bytes f, fs.read? p = some bytes → Yaml.read order (.ofBytes bytes) = .error f →
    f = .malformed
  texts : ∀ bytes es, fs.read? p = some bytes → Yaml.read order (.ofBytes bytes) = .ok (.map es) →
    ∀ v ∈ ReadingStep.values (steps p es), v.isWritable = true

/-- What is in the file is malformed or faulty unless its value is one of those here. -/
def Covered (order : SetOrder) (fs : FileSystem) (p : Path) : Prop :=
  ∀ f, find order fs p = .error (.value f) → f.isForeign = false

/-- The declarations of what is found in a file: none unless that is a mapping. -/
def contents (order : SetOrder) (fs : FileSystem) (p : Path) : DeclarationSet :=
  match find order fs p with
  | .ok (some (.map es)) => DeclarationSet.ofValue (.map es)
  | _ => []

/-- A mapping is found in the file. -/
def holdsMapping (order : SetOrder) (fs : FileSystem) (p : Path) : Bool :=
  match find order fs p with
  | .ok (some (.map _)) => true
  | _ => false

/-- The texts in what is found can be written. -/
def hasTexts (p : Path) : Option Value → Bool
  | some (.map es) => (ReadingStep.values (steps p es)).all Value.isWritable
  | _ => true

theorem ofBytes_eq_ok_iff (order : SetOrder) (bytes : List UInt8) (found : Option Value) :
    ofBytes order bytes = .ok found ↔
      (∃ v, Yaml.read order (.ofBytes bytes) = .ok v ∧ found = some v) ∨
        Yaml.read order (.ofBytes bytes) = .error .malformed ∧ found = none := by
  unfold ofBytes
  cases Yaml.read order (.ofBytes bytes) with
  | ok v => simp [eq_comm]
  | error f => by_cases hf : f = .malformed <;> simp [hf, eq_comm]

/-- What the bytes hold is well and good: malformed, or a value whose texts can be written. -/
theorem exists_ofBytes_iff (order : SetOrder) (bytes : List UInt8) (p : Path) :
    (∃ found, ofBytes order bytes = .ok found ∧ hasTexts p found = true) ↔
      (∀ f, Yaml.read order (.ofBytes bytes) = .error f → f = .malformed) ∧
        ∀ es, Yaml.read order (.ofBytes bytes) = .ok (.map es) →
          ∀ v ∈ ReadingStep.values (steps p es), v.isWritable = true := by
  simp only [ofBytes_eq_ok_iff]
  cases Yaml.read order (.ofBytes bytes) with
  | error f => simp [hasTexts]
  | ok v => cases v <;> simp [hasTexts]

/-- What is found in a readable file is well and good. -/
theorem readable_iff_find (order : SetOrder) (fs : FileSystem) (p : Path) :
    Readable order fs p ↔ ∃ found, find order fs p = .ok found ∧ hasTexts p found = true := by
  unfold find
  cases hnull : p.hasNull with
  | true => simp [readable_iff, hnull]
  | false =>
    cases hread : fs.read? p with
    | none => simp [readable_iff, hnull, hread, hasTexts]
    | some bytes =>
      refine Iff.trans ?_ (exists_ofBytes_iff order bytes p).symm
      constructor
      · rintro ⟨_, hmalformed, htexts⟩
        exact ⟨fun f => hmalformed bytes f hread, fun es => htexts bytes es hread⟩
      · rintro ⟨hmalformed, htexts⟩
        have hbytes : ∀ other, fs.read? p = some other → other = bytes :=
          fun other hother => Option.some.inj (hother.symm.trans hread)
        exact ⟨hnull, fun other f hother => hbytes other hother ▸ hmalformed f,
          fun other es hother => hbytes other hother ▸ htexts es⟩

theorem covered_of_readable {order : SetOrder} {fs : FileSystem} {p : Path}
    (h : Readable order fs p) : Covered order fs p := by
  obtain ⟨found, hfound, _⟩ := (readable_iff_find order fs p).1 h
  intro f hf
  rw [hfound] at hf
  cases hf

theorem contents_eq_nil {order : SetOrder} {fs : FileSystem} {p : Path}
    (h : holdsMapping order fs p = false) : contents order fs p = [] := by
  unfold contents
  unfold holdsMapping at h
  split
  · next heq => simp [heq] at h
  · rfl

theorem wellFormed_contents (order : SetOrder) (fs : FileSystem) (p : Path) :
    (contents order fs p).WellFormed := by
  unfold contents
  split
  · exact DeclarationSet.wellFormed_ofValue _
  · exact DeclarationSet.wellFormed_nil

/-- Steps can be followed to their end if all the texts that they take can be written. -/
theorem outcome_follow_eq_ok_iff (steps : List ReadingStep) :
    (follow steps).outcome = .ok () ↔ ∀ v ∈ ReadingStep.values steps, v.isWritable = true := by
  induction steps with
  | nil => simp [follow, ReadingStep.values, Report.done]
  | cons step steps ih =>
    cases step with
    | report e =>
      rw [follow, outcome_bind_eq_ok_iff]
      constructor
      · rintro ⟨_, _, hrest⟩
        exact ih.1 hrest
      · intro h
        exact ⟨(), rfl, ih.2 h⟩
    | text v =>
      have hvalues : ReadingStep.values (.text v :: steps) = v :: ReadingStep.values steps := rfl
      rw [follow, outcome_bind_eq_ok_iff, hvalues, List.forall_mem_cons, ← ih, take, Value.written]
      cases v.isWritable <;> simp [Report.stop, Report.done]

theorem outcome_declarations_eq_ok_iff (p : Path) (found : Option Value) (set : DeclarationSet) :
    (declarations p (found.getD .null)).outcome = .ok set ↔
      hasTexts p found = true ∧ set = DeclarationSet.ofValue (found.getD .null) := by
  have hnone : Except.ok (ε := LoadError) [] = .ok set ↔ true = true ∧ set = [] := by
    simp [eq_comm]
  cases found with
  | none => exact hnone
  | some v =>
    cases v with
    | map es =>
      constructor
      · intro h
        obtain ⟨⟨⟩, hfollow, hset⟩ := outcome_bind_eq_ok_iff.1 h
        exact ⟨List.all_eq_true.2 ((outcome_follow_eq_ok_iff _).1 hfollow),
          (Except.ok.inj hset).symm⟩
      · rintro ⟨htexts, rfl⟩
        exact outcome_bind_eq_ok_iff.2
          ⟨(), (outcome_follow_eq_ok_iff _).2 (List.all_eq_true.1 htexts), rfl⟩
    | _ => exact hnone

theorem outcome_read_eq_ok_iff (order : SetOrder) (fs : FileSystem) (p : Path) (v : Value) :
    (read order fs p).outcome = .ok v ↔
      ∃ found, find order fs p = .ok found ∧ v = found.getD .null := by
  unfold read
  cases find order fs p with
  | error e => simp [Report.stop]
  | ok found => cases found <;> simp [eq_comm]

theorem outcome_load_eq_ok_iff (order : SetOrder) (fs : FileSystem) (p : Path)
    (set : DeclarationSet) :
    (load order fs p).outcome = .ok set ↔ Readable order fs p ∧ set = contents order fs p := by
  rw [load, outcome_bind_eq_ok_iff, readable_iff_find]
  unfold contents
  simp only [outcome_read_eq_ok_iff]
  constructor
  · rintro ⟨_, ⟨found, hfound, rfl⟩, hset⟩
    obtain ⟨htexts, rfl⟩ := (outcome_declarations_eq_ok_iff p found set).1 hset
    refine ⟨⟨found, hfound, htexts⟩, ?_⟩
    rw [hfound]
    rcases found with _ | ⟨_ | _⟩ <;> rfl
  · rintro ⟨⟨found, hfound, htexts⟩, rfl⟩
    refine ⟨_, ⟨found, hfound, rfl⟩, (outcome_declarations_eq_ok_iff p found _).2 ⟨htexts, ?_⟩⟩
    rw [hfound]
    rcases found with _ | ⟨_ | _⟩ <;> rfl

end Document

namespace Loader

variable (l : Loader)

/-! ## Files -/

theorem outcome_loadFile_eq_ok_iff (p : Path) (set : DeclarationSet) :
    (l.loadFile p).outcome = .ok set ↔
      Document.Readable l.setOrder l.files p ∧ set = Document.contents l.setOrder l.files p :=
  Document.outcome_load_eq_ok_iff l.setOrder l.files p set

theorem outcome_mergeFile_eq_ok_iff (base : DeclarationSet) (p : Path) (set : DeclarationSet) :
    (l.mergeFile base p).outcome = .ok set ↔
      Document.Readable l.setOrder l.files p ∧
        set = base.merge (Document.contents l.setOrder l.files p) := by
  rw [mergeFile, outcome_bind_eq_ok_iff]
  constructor
  · rintro ⟨loaded, hloaded, hset⟩
    obtain ⟨hread, rfl⟩ := (l.outcome_loadFile_eq_ok_iff p loaded).1 hloaded
    exact ⟨hread, (Except.ok.inj hset).symm⟩
  · rintro ⟨hread, rfl⟩
    exact ⟨_, (l.outcome_loadFile_eq_ok_iff p _).2 ⟨hread, rfl⟩, rfl⟩

/-- The contents of files merged over a set, one file after the other. -/
def mergeContents (base : DeclarationSet) (files : List Path) : DeclarationSet :=
  files.foldl (fun set p => set.merge (Document.contents l.setOrder l.files p)) base

theorem outcome_foldlM_mergeFile_eq_ok_iff (files : List Path) (base set : DeclarationSet) :
    (files.foldlM l.mergeFile base).outcome = .ok set ↔
      (∀ p ∈ files, Document.Readable l.setOrder l.files p) ∧ set = l.mergeContents base files :=
  outcome_foldlM_eq_ok_iff (fun b p c => l.outcome_mergeFile_eq_ok_iff b p c) files base set

theorem mergeContents_append (base : DeclarationSet) (files more : List Path) :
    l.mergeContents base (files ++ more) = l.mergeContents (l.mergeContents base files) more :=
  List.foldl_append

/-- Merging files one by one into a base is merging their own fold into it. -/
theorem mergeContents_eq_merge {base : DeclarationSet} (hb : base.WellFormed)
    (files : List Path) :
    l.mergeContents base files = base.merge (l.mergeContents [] files) := by
  have hfold : ∀ start : DeclarationSet, l.mergeContents start files =
      (files.map (Document.contents l.setOrder l.files)).foldl DeclarationSet.merge start := by
    intro start
    rw [List.foldl_map]
    rfl
  rw [hfold, hfold]
  refine DeclarationSet.foldl_merge hb ?_
  intro set hset
  obtain ⟨p, _, rfl⟩ := List.mem_map.1 hset
  exact Document.wellFormed_contents l.setOrder l.files p

theorem wellFormed_mergeContents {base : DeclarationSet} (hb : base.WellFormed)
    (files : List Path) : (l.mergeContents base files).WellFormed := by
  induction files generalizing base with
  | nil => exact hb
  | cons p files ih =>
    have hp := Document.wellFormed_contents l.setOrder l.files p
    exact ih (DeclarationSet.wellFormed_merge hb hp)

/-- Files without a mapping leave no trace. -/
theorem mergeContents_filter (base : DeclarationSet) (files : List Path) :
    l.mergeContents base (files.filter (Document.holdsMapping l.setOrder l.files)) =
      l.mergeContents base files := by
  induction files generalizing base with
  | nil => rfl
  | cons p files ih =>
    cases hp : Document.holdsMapping l.setOrder l.files p with
    | true =>
      rw [List.filter_cons_of_pos hp]
      exact ih _
    | false =>
      rw [List.filter_cons_of_neg (by simp [hp]), ih]
      show l.mergeContents base files =
        l.mergeContents (base.merge (Document.contents l.setOrder l.files p)) files
      rw [Document.contents_eq_nil hp, DeclarationSet.merge_nil]

/-! ## Presets -/

/-- The directories of the catalog can be looked up. -/
def Searchable : Prop := ∀ d ∈ l.catalog.directories, l.files.isTooLong d = false

theorem outcome_look_eq_ok_iff :
    (l.catalog.look l.files).outcome = .ok () ↔ l.Searchable := by
  unfold Catalog.look Searchable
  cases hfind : l.catalog.directories.find? l.files.isTooLong with
  | none => simpa using hfind
  | some d =>
    have hlong := List.find?_some hfind
    have hmem := List.mem_of_find?_eq_some hfind
    simp only [reduceCtorEq, false_iff]
    intro hall
    rw [hall d hmem] at hlong
    cases hlong

theorem outcome_pathFor_eq_ok_iff (name : String) (found : Option Path) :
    (l.pathFor name).outcome = .ok found ↔
      l.Searchable ∧ found = l.catalog.pathFor l.files name := by
  rw [pathFor, outcome_bind_eq_ok_iff, ← outcome_look_eq_ok_iff]
  constructor
  · rintro ⟨u, hlook, hfound⟩
    exact ⟨hlook, (Except.ok.inj hfound).symm⟩
  · rintro ⟨hlook, rfl⟩
    exact ⟨(), hlook, rfl⟩

/-- The files of the presets that are named and found. -/
def presetPaths (names : List String) : List Path :=
  (names.filter (· ≠ "")).filterMap (l.catalog.pathFor l.files)

theorem presetPaths_cons (name : String) (names : List String) :
    l.presetPaths (name :: names) = l.presetPaths [name] ++ l.presetPaths names := by
  unfold presetPaths
  rw [← List.filterMap_append, ← List.filter_append, List.singleton_append]

/-- What merging one preset takes: that the catalog can be searched, and the file read. -/
def PresetReadable (name : String) : Prop :=
  name ≠ "" → l.Searchable ∧ ∀ p ∈ l.presetPaths [name], Document.Readable l.setOrder l.files p

theorem outcome_mergePreset_eq_ok_iff (base : DeclarationSet) (name : String)
    (set : DeclarationSet) :
    (l.mergePreset base name).outcome = .ok set ↔
      l.PresetReadable name ∧ set = l.mergeContents base (l.presetPaths [name]) := by
  unfold mergePreset PresetReadable
  by_cases hname : name = ""
  · have hpaths : l.presetPaths [name] = [] := by simp [presetPaths, hname]
    rw [if_pos hname, hpaths]
    show Except.ok base = Except.ok set ↔ _
    simp [hname, mergeContents, eq_comm]
  · rw [if_neg hname, outcome_bind_eq_ok_iff]
    simp only [outcome_pathFor_eq_ok_iff]
    cases hfound : l.catalog.pathFor l.files name with
    | none =>
      have hpaths : l.presetPaths [name] = [] := by simp [presetPaths, hfound]
      rw [hpaths]
      constructor
      · rintro ⟨_, ⟨hsearch, rfl⟩, hset⟩
        exact ⟨fun _ => ⟨hsearch, by simp⟩, (Except.ok.inj hset).symm⟩
      · rintro ⟨hread, rfl⟩
        exact ⟨none, ⟨(hread hname).1, rfl⟩, rfl⟩
    | some p =>
      have hpaths : l.presetPaths [name] = [p] := by simp [presetPaths, hname, hfound]
      rw [hpaths]
      constructor
      · rintro ⟨_, ⟨hsearch, rfl⟩, hset⟩
        obtain ⟨hread, rfl⟩ := (l.outcome_mergeFile_eq_ok_iff base p set).1 hset
        exact ⟨fun _ => ⟨hsearch, by simpa using hread⟩, rfl⟩
      · rintro ⟨hread, rfl⟩
        have hp : Document.Readable l.setOrder l.files p := (hread hname).2 p List.mem_cons_self
        exact ⟨some p, ⟨(hread hname).1, rfl⟩, (l.outcome_mergeFile_eq_ok_iff base p _).2 ⟨hp, rfl⟩⟩

/-- Looking for these presets takes no directory of the catalog that cannot be looked up. -/
def NamesSearchable (names : List String) : Prop := (∃ name ∈ names, name ≠ "") → l.Searchable

theorem forall_presetReadable_iff (names : List String) :
    (∀ name ∈ names, l.PresetReadable name) ↔
      l.NamesSearchable names ∧
        ∀ p ∈ l.presetPaths names, Document.Readable l.setOrder l.files p := by
  unfold PresetReadable NamesSearchable
  constructor
  · intro h
    refine ⟨fun ⟨name, hmem, hname⟩ => (h name hmem hname).1, fun p hp => ?_⟩
    obtain ⟨name, hfiltered, hfound⟩ := List.mem_filterMap.1 hp
    obtain ⟨hmem, hname⟩ := List.mem_filter.1 hfiltered
    have hname' : name ≠ "" := by simpa using hname
    exact (h name hmem hname').2 p (by simp [presetPaths, hname', hfound])
  · rintro ⟨hsearch, hread⟩ name hmem hname
    refine ⟨hsearch ⟨name, hmem, hname⟩, fun p hp => hread p ?_⟩
    have hfound : l.catalog.pathFor l.files name = some p := by
      simpa [presetPaths, hname] using hp
    exact List.mem_filterMap.2 ⟨name, List.mem_filter.2 ⟨hmem, by simpa using hname⟩, hfound⟩

theorem outcome_loadPresets_eq_ok_iff (names : List String) (set : DeclarationSet) :
    (l.loadPresets names).outcome = .ok set ↔
      (l.NamesSearchable names ∧
        ∀ p ∈ l.presetPaths names, Document.Readable l.setOrder l.files p) ∧
        set = l.mergeContents [] (l.presetPaths names) := by
  have hfold : ∀ base : DeclarationSet,
      names.foldl (fun b name => l.mergeContents b (l.presetPaths [name])) base =
        l.mergeContents base (l.presetPaths names) := by
    induction names with
    | nil => exact fun _ => rfl
    | cons name names ih =>
      intro base
      rw [l.presetPaths_cons, mergeContents_append, List.foldl_cons, ih]
  rw [loadPresets, outcome_foldlM_eq_ok_iff l.outcome_mergePreset_eq_ok_iff, hfold,
    forall_presetReadable_iff]

theorem outcome_presetFiles_eq_ok_iff (names : List String) (files : List Path) :
    (l.presetFiles names).outcome = .ok files ↔
      l.NamesSearchable names ∧ files = l.presetPaths names := by
  have hmap : ∀ found : List (Option Path),
      ((names.filter (· ≠ "")).mapM l.pathFor).outcome = .ok found ↔
        l.NamesSearchable names ∧
          found = (names.filter (· ≠ "")).map (l.catalog.pathFor l.files) := by
    intro found
    rw [outcome_mapM_eq_ok_iff (P := fun _ => l.Searchable) l.outcome_pathFor_eq_ok_iff]
    simp [NamesSearchable]
  rw [presetFiles, outcome_bind_eq_ok_iff]
  simp only [hmap]
  constructor
  · rintro ⟨_, ⟨hsearch, rfl⟩, hfiles⟩
    refine ⟨hsearch, (Except.ok.inj hfiles).symm.trans ?_⟩
    rw [presetPaths, List.filterMap_map]
    rfl
  · rintro ⟨hsearch, rfl⟩
    refine ⟨_, ⟨hsearch, rfl⟩, ?_⟩
    rw [presetPaths, List.filterMap_map]
    rfl

/-! ## Workflow directories -/

/-- The directory can be looked up. -/
def PlaceSearchable (directory : Path) : Prop :=
  directory.hasNull = false ∧ l.files.isTooLong (l.files.resolve directory) = false

/-- The files of a workflow directory. -/
def directoryPaths (directory : Path) : List Path :=
  (workflowFiles l.files (l.files.resolve directory)).2

theorem outcome_directoryFiles_eq_ok_iff (directory : Path) (files : List Path) :
    (l.directoryFiles directory).outcome = .ok files ↔
      l.PlaceSearchable directory ∧ files = l.directoryPaths directory := by
  unfold directoryFiles PlaceSearchable directoryPaths
  cases hnull : directory.hasNull with
  | true => simp [Report.stop]
  | false =>
    cases hlong : l.files.isTooLong (l.files.resolve directory) with
    | true => simp [Report.stop, hlong]
    | false => simp [hlong, eq_comm]

theorem outcome_loadDirectory_eq_ok_iff (directory : Path) (set : DeclarationSet) :
    (l.loadDirectory directory).outcome = .ok set ↔
      l.PlaceSearchable directory ∧
        (∀ p ∈ l.directoryPaths directory, Document.Readable l.setOrder l.files p) ∧
          set = l.mergeContents [] (l.directoryPaths directory) := by
  rw [loadDirectory, outcome_bind_eq_ok_iff]
  simp only [outcome_directoryFiles_eq_ok_iff, outcome_foldlM_mergeFile_eq_ok_iff]
  constructor
  · rintro ⟨_, ⟨hplace, rfl⟩, hfold⟩
    exact ⟨hplace, hfold⟩
  · rintro ⟨hplace, hfold⟩
    exact ⟨_, ⟨hplace, rfl⟩, hfold⟩

/-! ## All sources -/

/-- The files of the presets, and behind them those of the directory. -/
def sourcePaths (presets : List String) (directory : Option Path) : List Path :=
  l.presetPaths presets ++ (directory.map l.directoryPaths).getD []

theorem sourcePaths_none (presets : List String) :
    l.sourcePaths presets none = l.presetPaths presets := List.append_nil _

theorem sourcePaths_some (presets : List String) (d : Path) :
    l.sourcePaths presets (some d) = l.presetPaths presets ++ l.directoryPaths d := rfl

/-- Everything that is looked for can be looked up. -/
@[mk_iff]
structure SourcesSearchable (presets : List String) (directory : Option Path) : Prop where
  presets : l.NamesSearchable presets
  directory : ∀ d, directory = some d → l.PlaceSearchable d

theorem outcome_sourceFiles_eq_ok_iff (presets : List String) (directory : Option Path)
    (files : List Path) :
    (l.sourceFiles presets directory).outcome = .ok files ↔
      l.SourcesSearchable presets directory ∧ files = l.sourcePaths presets directory := by
  rw [sourceFiles, outcome_bind_eq_ok_iff]
  simp only [outcome_presetFiles_eq_ok_iff, sourcesSearchable_iff]
  cases directory with
  | none =>
    rw [sourcePaths_none]
    constructor
    · rintro ⟨_, ⟨hsearch, rfl⟩, hfiles⟩
      exact ⟨⟨hsearch, by simp⟩, (Except.ok.inj hfiles).symm⟩
    · rintro ⟨⟨hsearch, _⟩, rfl⟩
      exact ⟨_, ⟨hsearch, rfl⟩, rfl⟩
  | some d =>
    simp only [outcome_bind_eq_ok_iff, outcome_directoryFiles_eq_ok_iff]
    constructor
    · rintro ⟨_, ⟨hsearch, rfl⟩, _, ⟨hplace, rfl⟩, hfiles⟩
      exact ⟨⟨hsearch, fun _ hd => Option.some.inj hd ▸ hplace⟩, (Except.ok.inj hfiles).symm⟩
    · rintro ⟨⟨hsearch, hplace⟩, rfl⟩
      exact ⟨_, ⟨hsearch, rfl⟩, _, ⟨hplace d rfl, rfl⟩, rfl⟩

theorem outcome_load_eq_ok_iff (presets : List String) (directory : Option Path)
    (set : DeclarationSet) :
    (l.load presets directory).outcome = .ok set ↔
      l.SourcesSearchable presets directory ∧
        (∀ p ∈ l.sourcePaths presets directory, Document.Readable l.setOrder l.files p) ∧
          set = l.mergeContents [] (l.sourcePaths presets directory) := by
  rw [load, outcome_bind_eq_ok_iff]
  simp only [outcome_loadPresets_eq_ok_iff, sourcesSearchable_iff]
  cases directory with
  | none =>
    rw [sourcePaths_none]
    constructor
    · rintro ⟨_, ⟨⟨hsearch, hread⟩, rfl⟩, hset⟩
      exact ⟨⟨hsearch, by simp⟩, hread, (Except.ok.inj hset).symm⟩
    · rintro ⟨⟨hsearch, _⟩, hread, rfl⟩
      exact ⟨_, ⟨⟨hsearch, hread⟩, rfl⟩, rfl⟩
  | some d =>
    -- the directory is folded by itself and then merged over the presets
    have hfold := l.mergeContents_eq_merge
      (l.wellFormed_mergeContents DeclarationSet.wellFormed_nil (l.presetPaths presets))
      (l.directoryPaths d)
    rw [sourcePaths_some, mergeContents_append, hfold]
    simp only [outcome_bind_eq_ok_iff, outcome_loadDirectory_eq_ok_iff, List.forall_mem_append]
    constructor
    · rintro ⟨_, ⟨⟨hsearch, hread⟩, rfl⟩, _, ⟨hplace, hmore, rfl⟩, hset⟩
      exact ⟨⟨hsearch, fun _ hd => Option.some.inj hd ▸ hplace⟩, ⟨hread, hmore⟩,
        (Except.ok.inj hset).symm⟩
    · rintro ⟨⟨hsearch, hplace⟩, ⟨hread, hmore⟩, rfl⟩
      exact ⟨_, ⟨⟨hsearch, hread⟩, rfl⟩, _, ⟨hplace d rfl, hmore, rfl⟩, rfl⟩

end Loader

end DeclaredTools
