/-
  The command `check`. It reads the files once more and looks for problems itself, and yet it finds
  what the load before it has reported: both read the same files in the same order, and both ask
  `lint` about each entry of a mapping (`check_reports_problems_of_load`). What is written holds no
  terminal escapes, not even those that stand in a name.
-/
import DeclaredTools.Proofs.CommandLine.Options
import DeclaredTools.Proofs.Loading.Problems
import DeclaredTools.Proofs.Text.Escapes
import Mathlib.Data.Nat.Digits.Defs

namespace DeclaredTools.CommandLine

open Report

/-! ## What is found -/

theorem fileProblems_eq_ok {l : Loader} {p : Path} (h : Document.Readable l.setOrder l.files p) :
    Command.fileProblems l p =
      .ok ((Document.findings l.setOrder l.files p).map FileFinding.line) := by
  obtain ⟨found, hfound, htexts⟩ := (Document.readable_iff_find l.setOrder l.files p).1 h
  have hlint : ∀ v ∈ ReadingStep.values
      (Document.lintSteps p (Document.pairs l.setOrder l.files p)),
      v.isWritable = true := by
    intro v hv
    rw [Document.pairs, hfound] at hv
    rcases found with _ | w
    · cases hv
    · cases w with
      | map es =>
        refine List.all_eq_true.1 htexts v ?_
        rw [Document.steps, ReadingStep.values, List.filterMap_append]
        exact List.mem_append_left _ hv
      | _ => cases hv
  unfold Command.fileProblems Loader.entries
  rw [Document.outcome_entries, hfound]
  show ((Document.follow (Document.lintSteps p (Document.pairs l.setOrder l.files p))).outcome >>=
    fun _ => _) = _
  rw [(Document.outcome_follow_eq_ok_iff _).2 hlint, Document.findings, List.map_flatMap]
  simp only [List.map_map]
  rfl

theorem runCheck_eq_checked {s : Session} {set : DeclarationSet}
    (h : (s.loader.load s.presets s.directory).outcome = .ok set) :
    Command.runCheck s =
      Command.checked (s.loader.sourcePaths s.presets s.directory).length
        ((s.loader.findings (s.loader.sourcePaths s.presets s.directory)).map
          FileFinding.line) := by
  obtain ⟨hsearch, hread, _⟩ := (s.loader.outcome_load_eq_ok_iff _ _ set).1 h
  have hfiles := (s.loader.outcome_sourceFiles_eq_ok_iff s.presets s.directory _).2 ⟨hsearch, rfl⟩
  have hproblems := Result.mapM_eq_ok fun p hp => fileProblems_eq_ok (hread p hp)
  have hflat : (s.loader.findings (s.loader.sourcePaths s.presets s.directory)).map
      FileFinding.line = ((s.loader.sourcePaths s.presets s.directory).map fun p =>
        (Document.findings s.loader.setOrder s.loader.files p).map FileFinding.line).flatten := by
    rw [Loader.findings, List.map_flatMap, List.flatMap_def]
  have hresult : (do
      let files ← (s.loader.sourceFiles s.presets s.directory).outcome
      let problems ← files.mapM (Command.fileProblems s.loader)
      return (files.length, problems.flatten)) =
      Except.ok ((s.loader.sourcePaths s.presets s.directory).length,
        (s.loader.findings (s.loader.sourcePaths s.presets s.directory)).map FileFinding.line) := by
    rw [hfiles, hflat]
    show (List.mapM (Command.fileProblems s.loader) _ >>= fun problems => _) = _
    rw [hproblems]
    rfl
  unfold Command.runCheck
  rw [hresult]

/-! ## What is written -/

theorem escape_not_mem_toString (n : Nat) : '\x1b' ∉ (toString n).toList := by
  intro hmem
  have hdigits : '\x1b' ∈ Nat.toDigits 10 n := by simpa using hmem
  have hdigit := Nat.isDigit_of_mem_toDigits (by decide) (by decide) hdigits
  revert hdigit
  decide

theorem withoutEscapes_count (n : Nat) {rest : String} (h : '\x1b' ∉ rest.toList) :
    Text.withoutEscapes (toString n ++ rest) = toString n ++ rest := by
  rw [Text.withoutEscapes_append (escape_not_mem_toString n), Text.withoutEscapes_eq_self h]

/-- A problem as it stands in what is written. -/
def problemLine (f : FileFinding) : String := "  - " ++ Text.withoutEscapes f.line ++ "\n"

theorem withoutEscapes_problems (found : List FileFinding) :
    Text.withoutEscapes
        (String.join ((found.map FileFinding.line).map fun p => "  - " ++ p ++ "\n")) =
      String.join (found.map problemLine) := by
  induction found with
  | nil => exact Text.withoutEscapes_eq_self (by simp)
  | cons f found ih =>
    rw [List.map_cons, List.map_cons, List.map_cons, String.join_cons, String.join_cons,
      Text.withoutEscapes_line, ih, Text.withoutEscapes_append (by decide)]
    rfl

/-- What `check` leaves behind when it has found something, or nothing, in so many files. -/
def checkOutcome (files : Nat) (found : List FileFinding) : Outcome :=
  if found = [] then ⟨0, toString files ++ " file(s) checked, no problems found.\n", "", none⟩
  else
    ⟨1, String.join (found.map problemLine), toString found.length ++ " problem(s) found.\n", none⟩

theorem plain_checked (files : Nat) (found : List FileFinding) :
    (Command.checked files (found.map FileFinding.line)).plain = checkOutcome files found := by
  unfold Command.checked checkOutcome Outcome.plain
  cases found with
  | nil =>
    have hout : Text.withoutEscapes
        (toString files ++ " file(s) checked, no problems found." ++ "\n") =
          toString files ++ " file(s) checked, no problems found.\n" := by
      rw [String.append_assoc]
      exact withoutEscapes_count files (by decide)
    have herr : Text.withoutEscapes "" = "" := Text.withoutEscapes_eq_self (by decide)
    simp only [List.map_nil, List.isEmpty_nil, if_true, Outcome.success]
    rw [hout, herr]
  | cons f found =>
    have hout := withoutEscapes_problems (f :: found)
    have hmark : '\x1b' ∉ " problem(s) found.\n".toList := by decide
    have herr := withoutEscapes_count (f :: found).length hmark
    have hsome : ¬ ((f :: found).map FileFinding.line).isEmpty = true := by simp
    rw [if_neg hsome, if_neg (List.cons_ne_nil f found), List.length_map]
    dsimp only
    rw [hout, herr]

theorem run_check_of_opens {around : Surroundings} {options : List String} {s : Session}
    (h : Opens around options s) :
    run around (options ++ ["check"]) =
      checkOutcome (s.loader.sourcePaths s.presets s.directory).length
        (s.loader.findings (s.loader.sourcePaths s.presets s.directory)) := by
  obtain ⟨set, hload, _⟩ := load_of_opens h
  have hrun : Command.check.run s [] = Command.runCheck s := rfl
  rw [show ["check"] = [Command.check.name] from rfl, run_of_opens h, hrun,
    runCheck_eq_checked hload, plain_checked]

/-- **What `check` writes and what the load reports.** Options open a session; that is, its
presets and its directory have been loaded. Then the problems that `check` writes, each in a line
with the name of its file, are those that this load reports, in the same order; the run fails
exactly if there are any, and the counts are those of the problems and of the files that the load
reads. -/
theorem check_reports_problems_of_load {around : Surroundings} {options : List String}
    {s : Session} (h : Opens around options s) :
    ∃ files, (s.loader.sourceFiles s.presets s.directory).outcome = .ok files ∧
      (s.loader.load s.presets s.directory).events.filter Event.isLintProblem =
        (s.loader.findings files).map FileFinding.event ∧
      run around (options ++ ["check"]) = checkOutcome files.length (s.loader.findings files) := by
  obtain ⟨set, hload, _⟩ := load_of_opens h
  obtain ⟨hsearch, _⟩ := (s.loader.outcome_load_eq_ok_iff _ _ set).1 hload
  have hfiles := (s.loader.outcome_sourceFiles_eq_ok_iff s.presets s.directory _).2 ⟨hsearch, rfl⟩
  exact ⟨_, hfiles, s.loader.problems_load hload, run_check_of_opens h⟩

/-! ## A file whose name holds an escape -/

/-- A workflow directory with one file. The file has the escape for bold letters in its name, and
its tool is no mapping. -/
def boldWorkflow : Surroundings where
  files := ⟨["w"], [(["w", ".workflows"], .directory), (["w", ".workflows", "\x1b[1mbold.yaml"],
    .file "t: 1\n".toUTF8.toList)]⟩
  environment := []
  setOrder := .insertion

def boldLoader : Loader := ⟨boldWorkflow.files, .insertion, .ofDirectories [Builtin.directory]⟩

def boldFile : Path := ⟨1, ["w", ".workflows", "\x1b[1mbold.yaml"]⟩

theorem sourcePaths_bold : boldLoader.sourcePaths [] (some ⟨0, [".workflows"]⟩) = [boldFile] := by
  decide +kernel

theorem lines_bold :
    (boldLoader.findings [boldFile]).map FileFinding.line =
      ["\x1b[1mbold.yaml: Tool \"t\" must be a mapping"] := by
  decide +kernel

theorem opens_bold : ∃ registry, Opens boldWorkflow ["--config-dir", ".workflows"]
    ⟨boldLoader, [], some ⟨0, [".workflows"]⟩, false, registry⟩ := by
  have hsettings : boldWorkflow.settings = .ok ⟨"", none, "", 8400, "INFO"⟩ := rfl
  exact opens_of_workflow hsettings (by decide) (by decide)
    ⟨by decide, rfl⟩ (by decide +kernel)

theorem checkOutcome_bold :
    checkOutcome 1 (boldLoader.findings [boldFile]) =
      ⟨1, "  - bold.yaml: Tool \"t\" must be a mapping\n", "1 problem(s) found.\n", none⟩ := by
  have hlength : (boldLoader.findings [boldFile]).length = 1 := by
    rw [← List.length_map (f := FileFinding.line), lines_bold]
    rfl
  have hsome : boldLoader.findings [boldFile] ≠ [] := by
    intro hnil
    rw [hnil] at hlength
    cases hlength
  have hlines : (boldLoader.findings [boldFile]).map problemLine =
      ((boldLoader.findings [boldFile]).map FileFinding.line).map fun line =>
        "  - " ++ Text.withoutEscapes line ++ "\n" := by
    rw [List.map_map]
    rfl
  have hwritten : Text.withoutEscapes "\x1b[1mbold.yaml: Tool \"t\" must be a mapping" =
      "bold.yaml: Tool \"t\" must be a mapping" := by
    decide +kernel
  rw [checkOutcome, if_neg hsome, hlines, lines_bold, hlength, List.map_singleton, hwritten]
  rfl

theorem check_reports_problems_of_bold :
    ∃ s, Opens boldWorkflow ["--config-dir", ".workflows"] s ∧
      (s.loader.load s.presets s.directory).events.filter Event.isLintProblem =
        (s.loader.findings [boldFile]).map FileFinding.event ∧
      run boldWorkflow ["--config-dir", ".workflows", "check"] =
        ⟨1, "  - bold.yaml: Tool \"t\" must be a mapping\n", "1 problem(s) found.\n", none⟩ := by
  obtain ⟨registry, hopens⟩ := opens_bold
  obtain ⟨files, hfiles, hevents, hrun⟩ := check_reports_problems_of_load hopens
  obtain ⟨_, rfl⟩ := (boldLoader.outcome_sourceFiles_eq_ok_iff _ _ files).1 hfiles
  dsimp only at hevents hrun
  rw [sourcePaths_bold] at hevents hrun
  exact ⟨_, hopens, hevents, hrun.trans checkOutcome_bold⟩

/-- What is written is not what is reported: the name of the file has lost its escape. -/
theorem check_drops_escapes :
    ∃ s files, Opens boldWorkflow ["--config-dir", ".workflows"] s ∧
      (s.loader.sourceFiles s.presets s.directory).outcome = .ok files ∧
      (s.loader.load s.presets s.directory).events.filter Event.isLintProblem =
        (s.loader.findings files).map FileFinding.event ∧
      (run boldWorkflow ["--config-dir", ".workflows", "check"]).out ≠
        String.join ((s.loader.findings files).map fun f => "  - " ++ f.line ++ "\n") := by
  obtain ⟨registry, hopens⟩ := opens_bold
  obtain ⟨set, hload, _⟩ := load_of_opens hopens
  obtain ⟨hsearch, _⟩ := (boldLoader.outcome_load_eq_ok_iff _ _ _).1 hload
  have hfiles := (boldLoader.outcome_sourceFiles_eq_ok_iff _ _ _).2 ⟨hsearch, rfl⟩
  refine ⟨_, _, hopens, hfiles, boldLoader.problems_load hload, ?_⟩
  have hlines : (boldLoader.findings [boldFile]).map (fun f => "  - " ++ f.line ++ "\n") =
      ((boldLoader.findings [boldFile]).map FileFinding.line).map fun line =>
        "  - " ++ line ++ "\n" := by
    rw [List.map_map]
    rfl
  have hrun : run boldWorkflow ["--config-dir", ".workflows", "check"] = _ :=
    run_check_of_opens hopens
  rw [hrun, sourcePaths_bold, List.length_singleton, checkOutcome_bold, hlines, lines_bold]
  decide

end DeclaredTools.CommandLine
