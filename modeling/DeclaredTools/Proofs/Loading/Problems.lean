/-
  Problems that loading reports. Loading a file reports each problem of its declarations, and no
  other step of the loader reports one; so a load that has a result has reported the problems of the
  files it reads, file by file: `problems_load`.
-/
import DeclaredTools.Proofs.Declaration.Steps
import DeclaredTools.Proofs.Loading.Outcome

namespace DeclaredTools

open Report

/-- A problem, the tool that has it, and the file that says so. -/
structure FileFinding where
  file : Path
  tool : Value
  problem : Problem

namespace FileFinding

/-- The finding as loading reports it. -/
def event (f : FileFinding) : Event := .lintProblem f.file.text f.tool f.problem

/-- The finding in a line: the name of the file, then the problem. -/
def line (f : FileFinding) : String := f.file.name ++ ": " ++ f.problem.message

end FileFinding

def Event.isLintProblem : Event → Bool
  | .lintProblem .. => true
  | _ => false

/-! ## Problems among the events of a report -/

namespace Report

variable {ε α β : Type}

def problems (r : Report ε α) : List Event := r.events.filter Event.isLintProblem

theorem problems_eq_nil {r : Report ε α} (h : ∀ e ∈ r.events, e.isLintProblem = false) :
    r.problems = [] := by
  apply List.filter_eq_nil_iff.2
  intro e he
  simp [h e he]

theorem problems_bind_ok {r : Report ε α} {a : α} (h : r.outcome = .ok a) (f : α → Report ε β) :
    (r >>= f).problems = r.problems ++ (f a).problems := by
  unfold problems
  rw [events_bind_ok h, List.filter_append]

/-- If each step reports the problems of its element, a fold reports those of all elements. -/
theorem problems_foldlM {step : β → α → Report ε β} {g : α → List Event}
    (hstep : ∀ b a c, (step b a).outcome = .ok c → (step b a).problems = g a) (xs : List α)
    (b c : β) (h : (xs.foldlM step b).outcome = .ok c) :
    (xs.foldlM step b).problems = xs.flatMap g := by
  induction xs generalizing b with
  | nil => rfl
  | cons a xs ih =>
    rw [List.foldlM_cons] at h ⊢
    obtain ⟨d, hd, hrest⟩ := outcome_bind_eq_ok_iff.1 h
    rw [problems_bind_ok hd, hstep b a d hd, ih d hrest, List.flatMap_cons]

end Report

/-! ## Declarations -/

namespace Declaration

theorem isLintProblem_of_mem_events {key : String} {es : List (Value × Value)} {e : Event}
    (he : e ∈ events key es) : e.isLintProblem = false := by
  have htools : ∀ v, ∀ e ∈ toolsEvents v, e.isLintProblem = false := by
    intro v e he
    unfold toolsEvents at he
    split at he
    · rw [List.mem_singleton.1 he]
      rfl
    · cases he
  have hmode : ∀ v, ∀ e ∈ modeEvents key v, e.isLintProblem = false := by
    intro v e he
    unfold modeEvents at he
    split at he
    · cases he
    · split at he
      · cases he
      · rw [List.mem_singleton.1 he]
        rfl
  rw [events, List.mem_append, List.mem_append] at he
  rcases he with (he | he) | he
  · obtain ⟨v, _, hv⟩ := List.mem_flatMap.1 he
    obtain ⟨f, _, rfl⟩ := List.mem_map.1 hv
    rfl
  · obtain ⟨v, _, hv⟩ := List.mem_flatMap.1 he
    exact htools v e hv
  · obtain ⟨v, _, hv⟩ := List.mem_flatMap.1 he
    exact hmode v e hv

end Declaration

theorem DeclarationSet.isLintProblem_of_mem_events {source : String} {es : List (Value × Value)}
    {e : Event} (he : e ∈ events source (.map es)) : e.isLintProblem = false := by
  obtain ⟨⟨k, v⟩, _, hv⟩ := List.mem_flatMap.1 he
  dsimp only at hv
  split at hv
  · exact Declaration.isLintProblem_of_mem_events hv
  · rw [List.mem_singleton.1 hv]
    rfl

/-! ## Documents -/

namespace Document

variable (order : SetOrder) (fs : FileSystem) (p : Path)

/-- The entries of what is found in a file: none unless that is a mapping. -/
def pairs : List (Value × Value) :=
  match find order fs p with
  | .ok (some (.map es)) => es
  | _ => []

/-- The problems of the declarations in a file. -/
def findings : List FileFinding :=
  (pairs order fs p).flatMap fun (key, entry) => (lint key.display entry).map (FileFinding.mk p key)

theorem outcome_entries :
    (entries order fs p).outcome = (find order fs p).map fun _ => pairs order fs p := by
  unfold entries read pairs
  rw [outcome_bind]
  cases find order fs p with
  | error e => rfl
  | ok found =>
    cases found with
    | none => rfl
    | some v => cases v <;> rfl

/-- Steps that are followed to their end report all that they have to report. -/
theorem events_follow {steps : List ReadingStep} (h : (follow steps).outcome = .ok ()) :
    (follow steps).events = ReadingStep.reports steps := by
  induction steps with
  | nil => rfl
  | cons step steps ih =>
    obtain ⟨⟨⟩, htake, hrest⟩ := outcome_bind_eq_ok_iff.1 h
    rw [follow, events_bind_ok htake, ih hrest]
    cases step with
    | report e => rfl
    | text v =>
      have hquiet : (take (.text v)).events = [] := by
        rw [take]
        cases v.written <;> rfl
      rw [hquiet, List.nil_append, ReadingStep.reports_text_cons]

theorem reports_lintSteps :
    ReadingStep.reports (lintSteps p (pairs order fs p)) =
      (findings order fs p).map FileFinding.event := by
  rw [lintSteps, findings, ReadingStep.reports_flatMap, List.map_flatMap]
  congr 1
  funext ⟨key, entry⟩
  have hmap : (lint key.display entry).map
      (fun problem => ReadingStep.report (.lintProblem p.text key problem)) =
        ((lint key.display entry).map (Event.lintProblem p.text key)).map .report := by
    rw [List.map_map]
    rfl
  dsimp only
  rw [ReadingStep.reports_append, ReadingStep.reports_map_text, hmap,
    ReadingStep.reports_map_report, List.nil_append, List.map_map]
  rfl

theorem problems_follow {es : List (Value × Value)} (hes : pairs order fs p = es)
    (h : (follow (steps p es)).outcome = .ok ()) :
    (follow (steps p es)).problems = (findings order fs p).map FileFinding.event := by
  subst hes
  have hlint : ((findings order fs p).map FileFinding.event).filter Event.isLintProblem =
      (findings order fs p).map FileFinding.event := by
    apply List.filter_eq_self.2
    intro e he
    obtain ⟨f, _, rfl⟩ := List.mem_map.1 he
    rfl
  have hrest : (DeclarationSet.events p.text (.map (pairs order fs p))).filter Event.isLintProblem =
      [] := by
    apply List.filter_eq_nil_iff.2
    intro e he
    simp [DeclarationSet.isLintProblem_of_mem_events he]
  rw [problems, events_follow h, steps, ReadingStep.reports_append, reports_lintSteps,
    DeclarationSet.reports_steps, List.filter_append, hlint, hrest, List.append_nil]

/-- A document that is read reports its problems. -/
theorem problems_load {set : DeclarationSet} (h : (load order fs p).outcome = .ok set) :
    (load order fs p).problems = (findings order fs p).map FileFinding.event := by
  obtain ⟨v, hv, hset⟩ := outcome_bind_eq_ok_iff.1 h
  obtain ⟨found, hfound, rfl⟩ := (outcome_read_eq_ok_iff order fs p v).1 hv
  have hread : (read order fs p).problems = [] := by
    unfold read
    rw [hfound]
    cases found <;> rfl
  rw [load, problems_bind_ok hv, hread, List.nil_append]
  rcases found with _ | v
  · simp [findings, pairs, hfound, declarations, problems]
  · cases v with
    | map es =>
      have hpairs : pairs order fs p = es := by rw [pairs, hfound]
      obtain ⟨⟨⟩, hfollow, _⟩ := outcome_bind_eq_ok_iff.1 hset
      show (follow (steps p es) >>= fun _ => _).problems = _
      rw [problems_bind_ok hfollow, problems_follow order fs p hpairs hfollow]
      exact List.append_nil _
    | _ =>
      simp only [findings, pairs, hfound]
      rfl

end Document

/-! ## Loading -/

namespace Loader

variable (l : Loader)

theorem problems_merge (base overlay : DeclarationSet) : (merge base overlay).problems = [] := by
  apply problems_eq_nil
  intro e he
  obtain ⟨key, _, rfl⟩ := List.mem_map.1 he
  rfl

/-- The problems of the declarations in some files, file by file. -/
def findings (files : List Path) : List FileFinding :=
  files.flatMap (Document.findings l.setOrder l.files)

theorem map_event_findings (files : List Path) :
    (l.findings files).map FileFinding.event =
      files.flatMap fun p => (Document.findings l.setOrder l.files p).map FileFinding.event :=
  List.map_flatMap

theorem problems_mergeFile (base : DeclarationSet) (p : Path) (set : DeclarationSet)
    (h : (l.mergeFile base p).outcome = .ok set) :
    (l.mergeFile base p).problems =
      (Document.findings l.setOrder l.files p).map FileFinding.event := by
  obtain ⟨loaded, hloaded, _⟩ := outcome_bind_eq_ok_iff.1 h
  rw [mergeFile, problems_bind_ok hloaded, problems_merge, List.append_nil]
  exact Document.problems_load l.setOrder l.files p hloaded

theorem problems_foldlM_mergeFile (files : List Path) (base set : DeclarationSet)
    (h : (files.foldlM l.mergeFile base).outcome = .ok set) :
    (files.foldlM l.mergeFile base).problems = (l.findings files).map FileFinding.event := by
  rw [map_event_findings]
  exact problems_foldlM l.problems_mergeFile files base set h

theorem problems_look : (l.catalog.look l.files).problems = [] := by
  have hevents : ∀ c : Catalog, ∀ e ∈ c.events l.files, e.isLintProblem = false := by
    intro c e he
    obtain ⟨d, _, rfl⟩ := List.mem_map.1 he
    rfl
  apply problems_eq_nil
  unfold Catalog.look
  split
  · exact hevents _
  · exact hevents _

theorem problems_pathFor {name : String} {found : Option Path}
    (h : (l.pathFor name).outcome = .ok found) : (l.pathFor name).problems = [] := by
  obtain ⟨u, hlook, _⟩ := outcome_bind_eq_ok_iff.1 h
  rw [pathFor, problems_bind_ok hlook, problems_look]
  rfl

theorem problems_mergePreset (base : DeclarationSet) (name : String) (set : DeclarationSet)
    (h : (l.mergePreset base name).outcome = .ok set) :
    (l.mergePreset base name).problems =
      (l.findings (l.presetPaths [name])).map FileFinding.event := by
  unfold mergePreset at h ⊢
  by_cases hname : name = ""
  · have hpaths : l.presetPaths [name] = [] := by simp [presetPaths, hname]
    rw [if_pos hname, hpaths]
    rfl
  · rw [if_neg hname] at h ⊢
    obtain ⟨found, hfound, hmerge⟩ := outcome_bind_eq_ok_iff.1 h
    obtain ⟨_, hpath⟩ := (l.outcome_pathFor_eq_ok_iff name found).1 hfound
    rw [problems_bind_ok hfound, l.problems_pathFor hfound, List.nil_append]
    cases found with
    | none =>
      have hpaths : l.presetPaths [name] = [] := by simp [presetPaths, ← hpath]
      rw [hpaths]
      rfl
    | some p =>
      have hpaths : l.presetPaths [name] = [p] := by simp [presetPaths, hname, ← hpath]
      rw [hpaths, findings, List.flatMap_singleton]
      exact l.problems_mergeFile base p set hmerge

theorem presetPaths_eq_flatMap (names : List String) :
    l.presetPaths names = names.flatMap fun name => l.presetPaths [name] := by
  induction names with
  | nil => rfl
  | cons name names ih => rw [presetPaths_cons, ih, List.flatMap_cons]

theorem problems_loadPresets {names : List String} {set : DeclarationSet}
    (h : (l.loadPresets names).outcome = .ok set) :
    (l.loadPresets names).problems = (l.findings (l.presetPaths names)).map FileFinding.event := by
  have hsteps : (l.findings (l.presetPaths names)).map FileFinding.event =
      names.flatMap fun name => (l.findings (l.presetPaths [name])).map FileFinding.event := by
    rw [presetPaths_eq_flatMap, findings, List.flatMap_assoc, List.map_flatMap]
    rfl
  rw [hsteps]
  exact problems_foldlM l.problems_mergePreset names [] set h

theorem isLintProblem_of_mem_workflowFiles {fs : FileSystem} {place : Path} {e : Event}
    (he : e ∈ (workflowFiles fs place).1) : e.isLintProblem = false := by
  unfold workflowFiles at he
  split at he
  · rw [List.mem_singleton.1 he]
    rfl
  · split at he
    · rw [List.mem_singleton.1 he]
      rfl
    · dsimp only at he
      split at he
      · rw [List.mem_singleton.1 he]
        rfl
      · cases he

theorem problems_directoryFiles (directory : Path) :
    (l.directoryFiles directory).problems = [] := by
  apply problems_eq_nil
  intro e he
  unfold directoryFiles at he
  dsimp only at he
  split at he
  · cases he
  · split at he
    · cases he
    · exact isLintProblem_of_mem_workflowFiles he

theorem problems_loadDirectory {directory : Path} {set : DeclarationSet}
    (h : (l.loadDirectory directory).outcome = .ok set) :
    (l.loadDirectory directory).problems =
      (l.findings (l.directoryPaths directory)).map FileFinding.event := by
  obtain ⟨files, hfiles, hfold⟩ := outcome_bind_eq_ok_iff.1 h
  obtain ⟨_, rfl⟩ := (l.outcome_directoryFiles_eq_ok_iff directory files).1 hfiles
  rw [loadDirectory, problems_bind_ok hfiles, problems_directoryFiles, List.nil_append]
  exact l.problems_foldlM_mergeFile _ [] set hfold

/-- A load that has a result reports the problems of its files, in the order in which they are
read. -/
theorem problems_load {presets : List String} {directory : Option Path} {set : DeclarationSet}
    (h : (l.load presets directory).outcome = .ok set) :
    (l.load presets directory).problems =
      (l.findings (l.sourcePaths presets directory)).map FileFinding.event := by
  obtain ⟨base, hbase, hrest⟩ := outcome_bind_eq_ok_iff.1 h
  rw [load, problems_bind_ok hbase, l.problems_loadPresets hbase]
  cases directory with
  | none =>
    rw [sourcePaths_none]
    exact List.append_nil _
  | some d =>
    obtain ⟨more, hmore, _⟩ := outcome_bind_eq_ok_iff.1 hrest
    dsimp only
    rw [problems_bind_ok hmore, problems_merge, List.append_nil, l.problems_loadDirectory hmore,
      sourcePaths_some, findings, findings, findings, List.flatMap_append, List.map_append]

end Loader

end DeclaredTools
