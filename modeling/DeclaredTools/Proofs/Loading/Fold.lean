/-
  Loading as a fold over source files. Presets and a workflow directory are folded apart and then
  merged; `load_iff_flat_fold` says that this is one fold over the files that `sourceFiles` lists,
  since merging is a monoid.

  `load_returns_iff` says when there is a result at all. A file that is absent, malformed or no
  mapping is skipped and leaves no trace. A file whose bytes are no text, or in which a value stands
  for nothing or has no text where one is taken, is not skipped: it stops the load, and the files
  beside it are lost (`not_load_undecodable`).

  Values are finite trees, and texts are made of whole characters. A document that contains itself
  or that holds half a character has a value of another kind, and nothing is said about loading it:
  such files are not `Document.Covered`. Nor is anything said of what runs out of memory or of
  stack, or of what becomes of the events that are reported.
-/
import DeclaredTools.Proofs.Files
import DeclaredTools.Proofs.Loading.Outcome
import DeclaredTools.Proofs.Result

namespace DeclaredTools.Loader

open Report

/-- **Loading is a flat fold.** It has the result that merging the source files one by one into the
empty set has, and the directory can be folded into the presets file by file. -/
theorem load_iff_flat_fold (l : Loader) (presets : List String) (set : DeclarationSet) :
    (∀ directory : Option Path, (l.load presets directory).outcome = .ok set ↔
      ∃ files, (l.sourceFiles presets directory).outcome = .ok files ∧
        (files.foldlM (fun set p => do merge set (← l.loadFile p)) []).outcome = .ok set) ∧
    (∀ d : Path, (l.load presets (some d)).outcome = .ok set ↔
      ∃ base files, (l.loadPresets presets).outcome = .ok base ∧
        (l.directoryFiles d).outcome = .ok files ∧
          (files.foldlM (fun set p => do merge set (← l.loadFile p)) base).outcome = .ok set) := by
  have hstep : (fun set p => do merge set (← l.loadFile p)) = l.mergeFile := rfl
  rw [hstep]
  refine ⟨fun directory => ?_, fun d => ?_⟩
  · simp only [outcome_load_eq_ok_iff, outcome_sourceFiles_eq_ok_iff,
      outcome_foldlM_mergeFile_eq_ok_iff]
    constructor
    · rintro ⟨hsearch, hread⟩
      exact ⟨_, ⟨hsearch, rfl⟩, hread⟩
    · rintro ⟨_, ⟨hsearch, rfl⟩, hread⟩
      exact ⟨hsearch, hread⟩
  · simp only [outcome_load_eq_ok_iff, outcome_loadPresets_eq_ok_iff,
      outcome_directoryFiles_eq_ok_iff, outcome_foldlM_mergeFile_eq_ok_iff, sourcePaths_some,
      List.forall_mem_append, mergeContents_append, sourcesSearchable_iff]
    constructor
    · rintro ⟨⟨hsearch, hplace⟩, ⟨hpresets, hfiles⟩, hset⟩
      exact ⟨_, _, ⟨⟨hsearch, hpresets⟩, rfl⟩, ⟨hplace d rfl, rfl⟩, hfiles, hset⟩
    · rintro ⟨_, _, ⟨⟨hsearch, hpresets⟩, rfl⟩, ⟨hplace, rfl⟩, hfiles, hset⟩
      exact ⟨⟨hsearch, fun _ hd => Option.some.inj hd ▸ hplace⟩, ⟨hpresets, hfiles⟩, hset⟩

/-! ## Skipped files -/

/-- Files without a mapping can be kept or left out at will. -/
theorem mergeContents_filter_or (l : Loader) (keep : Path → Bool) (base : DeclarationSet)
    (files : List Path) :
    l.mergeContents base
        (files.filter fun p => Document.holdsMapping l.setOrder l.files p || keep p) =
      l.mergeContents base files := by
  rw [← mergeContents_filter, ← l.mergeContents_filter base files, List.filter_filter]
  congr 1
  apply List.filter_congr
  intro p _
  cases Document.holdsMapping l.setOrder l.files p <;> rfl

/-- **What a load returns, and when.** As long as the files that it reads are covered, loading
returns exactly when every name that it looks up can be looked up and every file that it reads is
readable, that is, absent, malformed, or with a value whose texts can be written. It is then the
fold of the files that hold a mapping, with any of the others kept or left out. -/
theorem load_returns_iff (l : Loader) (set : DeclarationSet) :
    (∀ p, Document.Covered l.setOrder l.files p →
      ((l.loadFile p).outcome = .ok set ↔
        Document.Readable l.setOrder l.files p ∧ set = Document.contents l.setOrder l.files p)) ∧
    (∀ names, (∀ p ∈ l.presetPaths names, Document.Covered l.setOrder l.files p) →
      ((l.loadPresets names).outcome = .ok set ↔
        l.NamesSearchable names ∧
          (∀ p ∈ l.presetPaths names, Document.Readable l.setOrder l.files p) ∧
            ∀ keep : Path → Bool, set = l.mergeContents []
              ((l.presetPaths names).filter fun p =>
                Document.holdsMapping l.setOrder l.files p || keep p))) ∧
    (∀ d, (∀ p ∈ l.directoryPaths d, Document.Covered l.setOrder l.files p) →
      ((l.loadDirectory d).outcome = .ok set ↔
        l.PlaceSearchable d ∧ (∀ p ∈ l.directoryPaths d, Document.Readable l.setOrder l.files p) ∧
          ∀ keep : Path → Bool, set = l.mergeContents []
            ((l.directoryPaths d).filter fun p =>
              Document.holdsMapping l.setOrder l.files p || keep p))) ∧
    (∀ presets directory,
      (∀ p ∈ l.sourcePaths presets directory, Document.Covered l.setOrder l.files p) →
      ((l.load presets directory).outcome = .ok set ↔
        l.SourcesSearchable presets directory ∧
          (∀ p ∈ l.sourcePaths presets directory, Document.Readable l.setOrder l.files p) ∧
            ∀ keep : Path → Bool, set = l.mergeContents []
              ((l.sourcePaths presets directory).filter fun p =>
                Document.holdsMapping l.setOrder l.files p || keep p))) := by
  simp only [mergeContents_filter_or, forall_const]
  refine ⟨fun p _ => l.outcome_loadFile_eq_ok_iff p set, fun names _ => ?_,
    fun d _ => l.outcome_loadDirectory_eq_ok_iff d set,
    fun presets directory _ => l.outcome_load_eq_ok_iff presets directory set⟩
  rw [outcome_loadPresets_eq_ok_iff, and_assoc]

/-- A preset of one byte that begins no character, beside one that is fine. -/
def undecodable : Loader where
  files := ⟨["w"], [(["w", "p"], .directory), (["w", "p", "bad.yaml"], .file [0xff]),
    (["w", "p", "good.yaml"], .file "t:\n  prompt: hi\n".toUTF8.toList)]⟩
  setOrder := .insertion
  catalog := ⟨[⟨0, ["p"]⟩]⟩

/-- A file that cannot be decoded from its start on has that fault, whatever it is. -/
theorem read_of_fault (order : SetOrder) (f : Yaml.Fault) :
    Yaml.read order ⟨[], some f⟩ = .error f := rfl

theorem read_undecodable_byte (order : SetOrder) :
    Yaml.read order (.ofBytes [0xff]) = .error (.encoding ⟨.invalidStart, 0xff, 0, 1⟩) := by
  have hpiece : [0xff].take Text.Stream.start.pieceSize = [(0xff : UInt8)] := by
    apply List.take_of_length_le
    exact Nat.le_trans (by decide) (Nat.le_max_left Text.Stream.leastPiece _)
  have hdecode : Text.Utf8.decodePart 0 [] [0xff] = .error ⟨.invalidStart, 0xff, 0, 1⟩ := by
    decide +kernel
  have htake : Text.Stream.start.take [0xff] = .error ⟨.invalidStart, 0xff, 0, 1⟩ := by
    have hheld : Text.Stream.start.held ++ [0xff] = [0xff] := rfl
    rw [Text.Stream.State.take, hheld, hdecode]
    rfl
  have hread : Text.Stream.read [0xff] = ⟨[], some ⟨.invalidStart, 0xff, 0, 1⟩⟩ := by
    rw [Text.Stream.read, Text.Stream.readFrom, dif_neg (by simp), hpiece, htake]
    rfl
  rw [Yaml.Source.ofBytes, hread]
  exact read_of_fault order _

theorem names_undecodable :
    undecodable.files.names ⟨0, ["p"]⟩ = ["bad.yaml", "good.yaml"] := by
  have hplace : undecodable.files.locate ⟨0, ["p"]⟩ = some ["w", "p"] := rfl
  exact undecodable.files.names_eq_of_pairwise hplace rfl (by decide)

theorem pathFor_undecodable :
    undecodable.catalog.pathFor undecodable.files "bad" = some ⟨0, ["p", "bad.yaml"]⟩ ∧
      undecodable.catalog.pathFor undecodable.files "good" = some ⟨0, ["p", "good.yaml"]⟩ := by
  have hfiles : undecodable.files.declarationFiles ⟨0, ["p"]⟩ =
      [⟨0, ["p", "bad.yaml"]⟩, ⟨0, ["p", "good.yaml"]⟩] := by
    rw [FileSystem.declarationFiles, FileSystem.entries, names_undecodable]
    decide +kernel
  have hdirectories : undecodable.catalog.directories.filter undecodable.files.isDirectory =
      [⟨0, ["p"]⟩] := by decide +kernel
  rw [Catalog.pathFor, Catalog.pathFor, Catalog.candidates, hdirectories, List.flatMap_singleton,
    hfiles]
  decide +kernel

/-- The other preset alone can be loaded. -/
theorem load_returns_iff_good :
    (∀ p ∈ undecodable.sourcePaths ["good"] none,
        Document.Covered undecodable.setOrder undecodable.files p) ∧
      ∃ set, (undecodable.load ["good"] none).outcome = .ok set := by
  have hpaths : undecodable.sourcePaths ["good"] none = [⟨0, ["p", "good.yaml"]⟩] := by
    simp [sourcePaths, presetPaths, pathFor_undecodable.2]
  have hloads : (undecodable.loadFile ⟨0, ["p", "good.yaml"]⟩).outcome.isOk = true := by
    decide +kernel
  obtain ⟨loaded, hloaded⟩ := Result.isOk_eq_true_iff.1 hloads
  have hread : ∀ p ∈ undecodable.sourcePaths ["good"] none,
      Document.Readable undecodable.setOrder undecodable.files p := by
    rw [hpaths, List.forall_mem_singleton]
    exact ((undecodable.outcome_loadFile_eq_ok_iff _ loaded).1 hloaded).1
  have hcovered := fun p hp => Document.covered_of_readable (hread p hp)
  have hsearch : undecodable.SourcesSearchable ["good"] none := by
    refine ⟨fun _ => ?_, fun d hd => by cases hd⟩
    unfold Searchable
    decide +kernel
  exact ⟨hcovered, _, ((load_returns_iff undecodable _).2.2.2 ["good"] none hcovered).2
    ⟨hsearch, hread, fun keep => (undecodable.mergeContents_filter_or keep [] _).symm⟩⟩

/-- A file that cannot be decoded is not skipped: it stops the load of the files beside it. -/
theorem not_load_undecodable :
    ¬ ∃ set, (undecodable.load ["bad", "good"] none).outcome = .ok set := by
  rintro ⟨set, hset⟩
  have hmem : (⟨0, ["p", "bad.yaml"]⟩ : Path) ∈ undecodable.sourcePaths ["bad", "good"] none := by
    simp [sourcePaths, presetPaths, pathFor_undecodable.1]
  have hbytes : undecodable.files.read? ⟨0, ["p", "bad.yaml"]⟩ = some [0xff] := by
    decide +kernel
  have hread := ((undecodable.outcome_load_eq_ok_iff _ _ set).1 hset).2.1 _ hmem
  cases hread.document _ _ hbytes (read_undecodable_byte _)

end DeclaredTools.Loader
