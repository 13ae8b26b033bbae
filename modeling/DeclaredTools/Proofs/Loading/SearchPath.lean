/-
  Presets along a search path. A name stands for the first entry in order of the first directory
  that offers a file for it (`standsFor_pathFor`), so directories behind it do not matter to the
  name, and missing ones to none (`presets_follow_search_path`).

  A missing directory is passed over, unless its name is longer than names can be: looking that up
  stops the search, and presets of the other directories are not found any more
  (`overlong_directory_stops_search`).
-/
import DeclaredTools.Proofs.Files
import DeclaredTools.Proofs.Loading.Outcome

namespace DeclaredTools

open OrderedMap

/-- In a list in order, the first element of a kind is the least of this kind. -/
theorem find?_eq_some_iff_least {α β : Type} [LinearOrder β] {key : α → β} {xs : List α}
    (h : xs.Pairwise fun a b => key a < key b) {p : α → Bool} {a : α} :
    xs.find? p = some a ↔ a ∈ xs ∧ p a = true ∧ ∀ b ∈ xs, p b = true → key a ≤ key b := by
  induction xs with
  | nil => simp
  | cons x xs ih =>
    obtain ⟨hx, hxs⟩ := List.pairwise_cons.1 h
    rw [List.find?_cons]
    cases hp : p x with
    | true =>
      constructor
      · intro ha
        obtain rfl := Option.some.inj ha
        refine ⟨List.mem_cons_self, hp, fun b hb _ => ?_⟩
        rcases List.mem_cons.1 hb with rfl | hb
        · exact le_refl _
        · exact le_of_lt (hx b hb)
      · rintro ⟨ha, hpa, hleast⟩
        rcases List.mem_cons.1 ha with rfl | ha
        · rfl
        · exact absurd (hx a ha) (not_lt.2 (hleast x List.mem_cons_self hp))
    | false =>
      have hne : ∀ b : α, p b = true → (b ∈ x :: xs ↔ b ∈ xs) := by
        intro b hb
        have hbx : b ≠ x := fun he => by
          rw [he, hp] at hb
          cases hb
        simp [hbx]
      rw [ih hxs]
      constructor
      · rintro ⟨ha, hpa, hleast⟩
        exact ⟨(hne a hpa).2 ha, hpa, fun b hb hpb => hleast b ((hne b hpb).1 hb) hpb⟩
      · rintro ⟨ha, hpa, hleast⟩
        exact ⟨(hne a hpa).1 ha, hpa, fun b hb hpb => hleast b ((hne b hpb).2 hb) hpb⟩

/-! ## What a name stands for -/

namespace Catalog

variable {fs : FileSystem}

/-- The directory is there and has an entry for the preset: one with this stem and with a suffix of
declaration files, in upper or lower case. -/
structure Offers (fs : FileSystem) (d : Path) (name : String) (p : Path) : Prop where
  isDirectory : fs.isDirectory d = true
  entry : p ∈ fs.entries d
  suffix : Text.lower p.suffix ∈ [".yaml", ".yml"]
  stem : p.stem = name

/-- The entry is the first in order that the first of the directories offers which offers any. -/
def IsFirstOffer (fs : FileSystem) (ds : List Path) (name : String) (p : Path) : Prop :=
  ∃ before d after, ds = before ++ d :: after ∧ (∀ d' ∈ before, ∀ q, ¬ Offers fs d' name q) ∧
    Offers fs d name p ∧ ∀ q, Offers fs d name q → p.name ≤ q.name

/-- What a name stands for along a search path: the first offer, or nothing if there is none. -/
def StandsFor (fs : FileSystem) (ds : List Path) (name : String) : Option Path → Prop
  | some p => IsFirstOffer fs ds name p
  | none => ∀ d ∈ ds, ∀ p, ¬ Offers fs d name p

/-- The file of a preset in one directory. -/
def fileIn? (fs : FileSystem) (name : String) (d : Path) : Option Path :=
  if fs.isDirectory d then (fs.declarationFiles d).find? fun p => p.stem = name else none

theorem isDeclarationFile_iff {p : Path} :
    p.isDeclarationFile = true ↔ Text.lower p.suffix ∈ [".yaml", ".yml"] := by
  unfold Path.isDeclarationFile declarationSuffixes
  exact List.contains_iff_mem

theorem offers_iff {d : Path} {name : String} {p : Path} :
    Offers fs d name p ↔
      fs.isDirectory d = true ∧ p ∈ fs.declarationFiles d ∧ decide (p.stem = name) = true := by
  unfold FileSystem.declarationFiles
  rw [List.mem_filter, isDeclarationFile_iff, decide_eq_true_iff]
  constructor
  · intro h
    exact ⟨h.isDirectory, ⟨h.entry, h.suffix⟩, h.stem⟩
  · rintro ⟨hd, ⟨hentry, hsuffix⟩, hstem⟩
    exact ⟨hd, hentry, hsuffix, hstem⟩

theorem fileIn?_eq_some_iff {name : String} {d p : Path} :
    fileIn? fs name d = some p ↔
      Offers fs d name p ∧ ∀ q, Offers fs d name q → p.name ≤ q.name := by
  have hordered : (fs.declarationFiles d).Pairwise fun p q => p.name < q.name :=
    (fs.pairwise_entries d).filter _
  simp only [offers_iff]
  unfold fileIn?
  by_cases hd : fs.isDirectory d = true
  · rw [if_pos hd, find?_eq_some_iff_least hordered]
    simp only [hd, true_and, and_imp, and_assoc]
  · rw [if_neg hd]
    simp [hd]

theorem fileIn?_eq_none_iff {name : String} {d : Path} :
    fileIn? fs name d = none ↔ ∀ p, ¬ Offers fs d name p := by
  simp only [offers_iff]
  unfold fileIn?
  by_cases hd : fs.isDirectory d = true
  · rw [if_pos hd, List.find?_eq_none]
    simp only [hd, true_and, not_and]
  · rw [if_neg hd]
    simp [hd]

/-- A search goes through the directories one by one. -/
theorem pathFor_eq_findSome? (c : Catalog) (fs : FileSystem) (name : String) :
    c.pathFor fs name = c.directories.findSome? (fileIn? fs name) := by
  unfold pathFor candidates
  rw [List.find?_flatMap]
  induction c.directories with
  | nil => rfl
  | cons d ds ih =>
    rw [List.findSome?_cons, fileIn?, List.filter_cons]
    by_cases hd : fs.isDirectory d = true
    · rw [if_pos hd, if_pos hd, List.findSome?_cons, ih]
    · rw [if_neg hd, if_neg hd, ih]

theorem standsFor_pathFor (c : Catalog) (fs : FileSystem) (name : String) :
    StandsFor fs c.directories name (c.pathFor fs name) := by
  rw [pathFor_eq_findSome?]
  cases hfound : c.directories.findSome? (fileIn? fs name) with
  | none =>
    intro d hd
    exact fileIn?_eq_none_iff.1 (List.findSome?_eq_none_iff.1 hfound d hd)
  | some p =>
    obtain ⟨before, d, after, hds, hd, hbefore⟩ := List.findSome?_eq_some_iff.1 hfound
    obtain ⟨hoffers, hleast⟩ := fileIn?_eq_some_iff.1 hd
    exact ⟨before, d, after, hds, fun d' hd' => fileIn?_eq_none_iff.1 (hbefore d' hd'), hoffers,
      hleast⟩

theorem pathFor_append (ds more : List Path) (name : String) :
    pathFor ⟨ds ++ more⟩ fs name = (pathFor ⟨ds⟩ fs name).or (pathFor ⟨more⟩ fs name) := by
  simp only [pathFor_eq_findSome?]
  exact List.findSome?_append

theorem pathFor_missing {missing : Path} (h : fs.isDirectory missing = false)
    (before after : List Path) (name : String) :
    pathFor ⟨before ++ missing :: after⟩ fs name = pathFor ⟨before ++ after⟩ fs name := by
  have hmissing : fileIn? fs name missing = none := by
    unfold fileIn?
    rw [h, if_neg Bool.false_ne_true]
  simp only [pathFor_eq_findSome?]
  rw [List.findSome?_append, List.findSome?_append, List.findSome?_cons, hmissing]

/-! ## All names -/

theorem mem_available_iff (c : Catalog) (fs : FileSystem) (name : String) :
    name ∈ c.available fs ↔ ∃ p, c.pathFor fs name = some p := by
  unfold available pathFor
  rw [List.mem_mergeSort, List.mem_eraseDups, List.mem_map, ← Option.isSome_iff_exists,
    List.find?_isSome]
  simp only [decide_eq_true_iff]

theorem pairwise_available (c : Catalog) (fs : FileSystem) :
    (c.available fs).Pairwise (· < ·) := by
  have hnodup : (((c.candidates fs).map Path.stem).eraseDups.map id).Nodup := by
    rw [List.map_id]
    exact nodup_eraseDups _
  exact pairwise_lt_mergeSort hnodup

end Catalog

/-! ## Looking names up -/

namespace Loader

open Catalog Report

/-- A loader whose presets are looked for in the given directories. -/
def searching (order : SetOrder) (fs : FileSystem) (ds : List Path) : Loader :=
  ⟨fs, order, .ofDirectories ds⟩

/-- Every directory of the search path can be looked up. -/
def CanSearch (fs : FileSystem) (ds : List Path) : Prop := ∀ d ∈ ds, fs.isTooLong d = false

variable {order : SetOrder} {fs : FileSystem} {ds : List Path}

theorem canSearch_append {more : List Path} :
    CanSearch fs (ds ++ more) ↔ CanSearch fs ds ∧ CanSearch fs more := List.forall_mem_append

theorem canSearch_cons {d : Path} :
    CanSearch fs (d :: ds) ↔ fs.isTooLong d = false ∧ CanSearch fs ds := List.forall_mem_cons

theorem catalog_searching (hne : ds ≠ []) : (searching order fs ds).catalog = ⟨ds⟩ := by
  unfold searching ofDirectories
  rw [if_neg (mt List.isEmpty_iff.1 hne)]

theorem outcome_pathFor_searching_eq_ok_iff (hne : ds ≠ []) (name : String)
    (found : Option Path) :
    ((searching order fs ds).pathFor name).outcome = .ok found ↔
      CanSearch fs ds ∧ found = Catalog.pathFor ⟨ds⟩ fs name := by
  rw [outcome_pathFor_eq_ok_iff, Searchable, catalog_searching hne]
  rfl

theorem outcome_available_searching_eq_ok_iff (hne : ds ≠ []) (names : List String) :
    (searching order fs ds).available.outcome = .ok names ↔
      CanSearch fs ds ∧ names = Catalog.available ⟨ds⟩ fs := by
  have hsearchable : (searching order fs ds).Searchable ↔ CanSearch fs ds := by
    rw [Searchable, catalog_searching hne]
    rfl
  rw [Loader.available, outcome_bind_eq_ok_iff, ← hsearchable, ← outcome_look_eq_ok_iff,
    catalog_searching hne]
  constructor
  · rintro ⟨u, hlook, hnames⟩
    exact ⟨hlook, (Except.ok.inj hnames).symm⟩
  · rintro ⟨hlook, rfl⟩
    exact ⟨(), hlook, rfl⟩

/-- **Presets follow the search path.** Looking up a name and listing all names give results exactly
if every directory of the search path can be looked up. A name stands for the first entry in order
of the first directory that offers any, or for nothing if none does; the names listed are those that
stand for something, in order; and a name keeps its file when directories are added behind, and when
a missing directory is added anywhere. -/
theorem presets_follow_search_path (order : SetOrder) (fs : FileSystem) {ds : List Path}
    (hne : ds ≠ []) :
    (∀ name,
      ((∃ found, ((searching order fs ds).pathFor name).outcome = .ok found) ↔ CanSearch fs ds) ∧
      ∀ found, ((searching order fs ds).pathFor name).outcome = .ok found →
        StandsFor fs ds name found) ∧
    (((∃ names, (searching order fs ds).available.outcome = .ok names) ↔ CanSearch fs ds) ∧
      ∀ names, (searching order fs ds).available.outcome = .ok names →
        names.Pairwise (· < ·) ∧ ∀ name, name ∈ names ↔
          ∃ p, ((searching order fs ds).pathFor name).outcome = .ok (some p)) ∧
    ∀ name p, ((searching order fs ds).pathFor name).outcome = .ok (some p) →
      (∀ more, CanSearch fs more →
        ((searching order fs (ds ++ more)).pathFor name).outcome = .ok (some p)) ∧
      ∀ before after missing, ds = before ++ after → fs.isDirectory missing = false →
        fs.isTooLong missing = false →
          ((searching order fs (before ++ missing :: after)).pathFor name).outcome =
            .ok (some p) := by
  simp only [outcome_pathFor_searching_eq_ok_iff hne, outcome_available_searching_eq_ok_iff hne]
  refine ⟨fun name => ⟨?_, ?_⟩, ⟨?_, ?_⟩, fun name p hfound => ⟨?_, ?_⟩⟩
  · simp
  · rintro found ⟨_, rfl⟩
    exact standsFor_pathFor ⟨ds⟩ fs name
  · simp
  · rintro names ⟨hsearch, rfl⟩
    refine ⟨pairwise_available ⟨ds⟩ fs, fun name => ?_⟩
    rw [mem_available_iff]
    simp [hsearch, eq_comm]
  · intro more hmore
    obtain ⟨hsearch, hp⟩ := hfound
    rw [outcome_pathFor_searching_eq_ok_iff (List.append_ne_nil_of_left_ne_nil hne more),
      pathFor_append, ← hp, Option.some_or]
    exact ⟨canSearch_append.2 ⟨hsearch, hmore⟩, rfl⟩
  · rintro before after missing rfl hmissing hshort
    obtain ⟨hsearch, hp⟩ := hfound
    obtain ⟨hbefore, hafter⟩ := canSearch_append.1 hsearch
    rw [outcome_pathFor_searching_eq_ok_iff (by simp), pathFor_missing hmissing, ← hp]
    exact ⟨canSearch_append.2 ⟨hbefore, canSearch_cons.2 ⟨hshort, hafter⟩⟩, rfl⟩

/-- Two directories with a file for the same name; the first has it in capitals, too. -/
def shelves : FileSystem where
  working := ["w"]
  contents := [(["w", "p"], .directory), (["w", "p", "base.YAML"], .file []),
    (["w", "p", "base.yml"], .file []), (["w", "p", "notes.txt"], .file []),
    (["w", "q"], .directory), (["w", "q", "base.yaml"], .file [])]

theorem pathFor_shelves :
    Catalog.pathFor ⟨[⟨0, ["p"]⟩, ⟨0, ["q"]⟩]⟩ shelves "base" = some ⟨0, ["p", "base.YAML"]⟩ := by
  have hnames : shelves.names ⟨0, ["p"]⟩ = ["base.YAML", "base.yml", "notes.txt"] := by
    have hplace : shelves.locate ⟨0, ["p"]⟩ = some ["w", "p"] := rfl
    exact shelves.names_eq_of_pairwise hplace (by decide +kernel) (by decide +kernel)
  have hfirst : fileIn? shelves "base" ⟨0, ["p"]⟩ = some ⟨0, ["p", "base.YAML"]⟩ := by
    unfold fileIn? FileSystem.declarationFiles FileSystem.entries
    rw [hnames]
    decide +kernel
  rw [pathFor_eq_findSome?, List.findSome?_cons, hfirst]

theorem presets_follow_search_path_shelves :
    [(⟨0, ["p"]⟩ : Path), ⟨0, ["q"]⟩] ≠ [] ∧
      IsFirstOffer shelves [⟨0, ["p"]⟩, ⟨0, ["q"]⟩] "base" ⟨0, ["p", "base.YAML"]⟩ ∧
      ((searching .insertion shelves [⟨0, ["p"]⟩, ⟨0, ["absent"]⟩, ⟨0, ["q"]⟩]).pathFor
        "base").outcome = .ok (some ⟨0, ["p", "base.YAML"]⟩) := by
  have hne : [(⟨0, ["p"]⟩ : Path), ⟨0, ["q"]⟩] ≠ [] := by simp
  have hsearch : CanSearch shelves [⟨0, ["p"]⟩, ⟨0, ["q"]⟩] := by
    unfold CanSearch
    decide +kernel
  have hfound : ((searching .insertion shelves [⟨0, ["p"]⟩, ⟨0, ["q"]⟩]).pathFor "base").outcome =
      .ok (some ⟨0, ["p", "base.YAML"]⟩) :=
    (outcome_pathFor_searching_eq_ok_iff hne _ _).2 ⟨hsearch, pathFor_shelves.symm⟩
  obtain ⟨hstands, _, hstable⟩ := presets_follow_search_path .insertion shelves hne
  refine ⟨hne, (hstands "base").2 _ hfound, ?_⟩
  refine (hstable _ _ hfound).2 [⟨0, ["p"]⟩] [⟨0, ["q"]⟩] ⟨0, ["absent"]⟩ rfl ?_ ?_
  all_goals decide +kernel

/-- A name of one byte more than names can have. -/
def overlong : Path := ⟨0, [String.ofList (List.replicate 256 'q')]⟩

theorem isTooLong_overlong : shelves.isTooLong overlong = true := by
  have hnull : overlong.hasNull = false := by
    unfold Path.hasNull overlong
    simp only [List.any_cons, List.any_nil, String.toList_ofList]
    rfl
  have hlong : shelves.meetsLongName ["w"] overlong.parts = true := by decide +kernel
  unfold FileSystem.isTooLong
  rw [hnull, Bool.not_false, Bool.true_and, Bool.or_eq_true]
  exact .inr hlong

/-- A missing directory with such a name is not passed over: with it no preset is found. -/
theorem overlong_directory_stops_search :
    shelves.isDirectory overlong = false ∧
      ((searching .insertion shelves [⟨0, ["p"]⟩, ⟨0, ["q"]⟩]).pathFor "base").outcome =
        .ok (some ⟨0, ["p", "base.YAML"]⟩) ∧
      ¬ ∃ found, ((searching .insertion shelves [⟨0, ["p"]⟩, ⟨0, ["q"]⟩, overlong]).pathFor
        "base").outcome = .ok found := by
  have hsearch : CanSearch shelves [⟨0, ["p"]⟩, ⟨0, ["q"]⟩] := by
    unfold CanSearch
    decide +kernel
  refine ⟨by decide +kernel, ?_, ?_⟩
  · exact (outcome_pathFor_searching_eq_ok_iff (by simp) _ _).2 ⟨hsearch, pathFor_shelves.symm⟩
  · rintro ⟨found, hfound⟩
    have hall := ((outcome_pathFor_searching_eq_ok_iff (by simp) _ _).1 hfound).1
    have hlong := isTooLong_overlong
    rw [hall overlong (by simp)] at hlong
    cases hlong

end Loader

end DeclaredTools
