/-
  Named entries in the order in which their names were first inserted.
-/
namespace DeclaredTools

abbrev OrderedMap (α : Type) := List (String × α)

namespace OrderedMap

variable {α : Type}

/-- The names in order. -/
def keys (m : OrderedMap α) : List String := List.map Prod.fst m

/-- The value under a name. -/
def get? (name : String) : OrderedMap α → Option α
  | [] => none
  | (n, a) :: m => if n = name then some a else get? name m

/-- Puts a value under a name; a name that is there keeps its place. -/
def insert (name : String) (a : α) : OrderedMap α → OrderedMap α
  | [] => [(name, a)]
  | (n, b) :: m => if n = name then (n, a) :: m else (n, b) :: insert name a m

/-- Inserts the entries of a list one after the other. -/
def insertAll (m : OrderedMap α) (entries : List (String × α)) : OrderedMap α :=
  entries.foldl (fun m e => m.insert e.1 e.2) m

/-- Entries under their names; the first place and the last value count. -/
def ofEntries (entries : List (String × α)) : OrderedMap α := insertAll [] entries

/-- Puts the entries of an overlay into a base, one after the other; what both have under a name
is combined in its old place. -/
def mergeWith (combine : α → α → α) (base overlay : OrderedMap α) : OrderedMap α :=
  overlay.foldl (fun m e => m.insert e.1 (match m.get? e.1 with
    | some old => combine old e.2
    | none => e.2)) base

@[simp] theorem get?_nil (name : String) : get? name ([] : OrderedMap α) = none := rfl

theorem get?_insert (m : OrderedMap α) (name other : String) (a : α) :
    (m.insert name a).get? other = if name = other then some a else m.get? other := by
  induction m with
  | nil => rfl
  | cons e m ih =>
    obtain ⟨n, b⟩ := e
    simp only [insert]
    split <;> simp only [get?] <;> grind

theorem mem_keys_iff_get? {m : OrderedMap α} {name : String} :
    name ∈ m.keys ↔ ∃ a, m.get? name = some a := by
  induction m with
  | nil => simp [keys]
  | cons e m ih =>
    obtain ⟨n, b⟩ := e
    simp only [keys, get?, List.map_cons, List.mem_cons] at *
    by_cases h : n = name
    · simp [h]
    · simp [h, ih, Ne.symm h]

/-- A new name goes to the end. -/
theorem keys_insert (m : OrderedMap α) (name : String) (a : α) :
    (m.insert name a).keys = if name ∈ m.keys then m.keys else m.keys ++ [name] := by
  induction m with
  | nil => rfl
  | cons e m ih =>
    obtain ⟨n, b⟩ := e
    simp only [insert, keys] at *
    split <;> grind

theorem nodup_keys_insert {m : OrderedMap α} (h : m.keys.Nodup) (name : String) (a : α) :
    (m.insert name a).keys.Nodup := by
  rw [keys_insert]
  split
  · exact h
  · next hn =>
    exact List.nodup_append.2 ⟨h, by simp, fun x hx y hy => by simp at hy; grind⟩

theorem nodup_keys_insertAll {m : OrderedMap α} (h : m.keys.Nodup) (entries : List (String × α)) :
    (m.insertAll entries).keys.Nodup := by
  induction entries generalizing m with
  | nil => exact h
  | cons e entries ih => exact ih (nodup_keys_insert h e.1 e.2)

theorem nodup_keys_ofEntries (entries : List (String × α)) : (ofEntries entries).keys.Nodup :=
  nodup_keys_insertAll (by simp [keys]) entries

end OrderedMap

end DeclaredTools
