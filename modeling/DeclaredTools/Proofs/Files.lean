/-
  Listings of directories. The names in a directory, and so its entries, stand strictly one below
  the other (`pairwise_names`, `pairwise_entries`).
-/
import DeclaredTools.Files.Basic
import DeclaredTools.Proofs.OrderedMap

namespace DeclaredTools

open OrderedMap

theorem Path.name_child (d : Path) (name : String) : (d.child name).name = name := by
  simp [Path.child, Path.name]

namespace FileSystem

variable (fs : FileSystem)

theorem pairwise_names (d : Path) : (fs.names d).Pairwise (· < ·) := by
  unfold names
  cases fs.locate d with
  | none => exact List.Pairwise.nil
  | some place =>
    have hsorted := pairwise_le_mergeSort id
      (fs.contents.filterMap fun e => entryName? place e.1)
    exact ((hsorted.sublist (eraseDups_sublist _)).and (nodup_eraseDups _)).imp
      fun h => lt_of_le_of_ne h.1 h.2

/-- Entries that stand in order already are the names of the directory as they stand. -/
theorem names_eq_of_pairwise {d : Path} {place found : List String}
    (hplace : fs.locate d = some place)
    (hfound : fs.contents.filterMap (fun e => entryName? place e.1) = found)
    (hordered : found.Pairwise (· < ·)) : fs.names d = found := by
  have hsorted : found.Pairwise fun a b => decide (a ≤ b) = true :=
    hordered.imp fun h => decide_eq_true (le_of_lt h)
  have hnodup : found.Nodup := hordered.imp fun h => ne_of_lt h
  unfold names
  rw [hplace]
  dsimp only
  rw [hfound, List.mergeSort_of_pairwise hsorted, eraseDups_of_nodup hnodup]

/-- The entries of a directory stand in the order of their names. -/
theorem pairwise_entries (d : Path) : (fs.entries d).Pairwise fun p q => p.name < q.name := by
  unfold entries
  rw [List.pairwise_map]
  simpa only [Path.name_child] using fs.pairwise_names d

end FileSystem

end DeclaredTools
