/-
  How a template is read. `Reads` says it without the algorithm: from left to right, a placeholder
  is taken wherever one stands, and one character where none does. `segments` finds the only such
  reading (`segments_eq_iff`).

  A placeholder stands where two opening braces are followed by a body that is not empty and holds
  no closing brace, and then by two closing braces (`StartsWith`). The body may hold opening
  braces, so three of them belong to a placeholder whose body begins with the third.
-/
import DeclaredTools.Prompt.Template
import Mathlib.Data.List.TakeWhile

namespace DeclaredTools.Template

/-! ## Where a placeholder stands -/

/-- The text starts with a placeholder of this body, and the rest is behind it. -/
structure StartsWith (cs body rest : List Char) : Prop where
  body_ne_nil : body ≠ []
  body_closed : '\x7d' ∉ body
  text_eq : cs = (Segment.placeholder body).source ++ rest

theorem source_append (body rest : List Char) :
    (Segment.placeholder body).source ++ rest =
      '\x7b' :: '\x7b' :: (body ++ '\x7d' :: '\x7d' :: rest) := by
  simp [Segment.source]

theorem placeholder?_eq_some_iff {cs body rest : List Char} :
    placeholder? cs = some (body, rest) ↔ StartsWith cs body rest := by
  constructor
  · intro h
    unfold placeholder? at h
    split at h
    · next cs =>
      dsimp only at h
      split at h
      · cases h
      · next hbody =>
        split at h
        · next hrest =>
          obtain ⟨rfl, rfl⟩ := Prod.mk.inj (Option.some.inj h)
          have hclosed : '\x7d' ∉ cs.takeWhile (· ≠ '\x7d') := by
            intro hmem
            simpa using List.mem_takeWhile_imp hmem
          have hsplit := List.takeWhile_append_dropWhile (p := (· ≠ '\x7d')) (l := cs)
          refine ⟨by simpa using hbody, hclosed, ?_⟩
          rw [source_append, ← hrest, hsplit]
        · cases h
    · cases h
  · rintro ⟨hne, hclosed, rfl⟩
    have hbody : ∀ c ∈ body, decide (c ≠ '\x7d') = true := by
      intro c hc
      simpa using fun heq : c = '\x7d' => hclosed (heq ▸ hc)
    rw [source_append, placeholder?, List.takeWhile_append_of_pos hbody,
      List.dropWhile_append_of_pos hbody]
    simp [hne]

theorem placeholder?_eq_none_iff {cs : List Char} :
    placeholder? cs = none ↔ ∀ body rest, ¬ StartsWith cs body rest := by
  constructor
  · intro h body rest hstarts
    rw [placeholder?_eq_some_iff.2 hstarts] at h
    cases h
  · intro h
    cases hp : placeholder? cs with
    | none => rfl
    | some found => exact absurd (placeholder?_eq_some_iff.1 hp) (h found.1 found.2)

/-- Only an opening brace can start a placeholder. -/
theorem not_startsWith_of_ne {c : Char} (h : c ≠ '\x7b') (cs body rest : List Char) :
    ¬ StartsWith (c :: cs) body rest := by
  intro hstarts
  have htext := hstarts.text_eq
  simp only [Segment.source, List.cons_append, List.cons.injEq] at htext
  exact h htext.1

/-! ## Readings -/

/-- The text consists of these pieces, read from left to right. -/
inductive Reads : List Char → List Segment → Prop
  | nil : Reads [] []
  | placeholder {cs body rest : List Char} {xs : List Segment} (start : StartsWith cs body rest)
    (tail : Reads rest xs) : Reads cs (.placeholder body :: xs)
  | char {c : Char} {cs : List Char} {xs : List Segment}
    (start : ∀ body rest, ¬ StartsWith (c :: cs) body rest) (tail : Reads cs xs) :
    Reads (c :: cs) (.char c :: xs)

theorem reads_segments (cs : List Char) : Reads cs (segments cs) := by
  fun_induction segments cs with
  | case1 => exact .nil
  | case2 c cs body rest h _ ih => exact .placeholder (placeholder?_eq_some_iff.1 h) ih
  | case3 c cs h ih => exact .char (placeholder?_eq_none_iff.1 h) ih

theorem Reads.unique {cs : List Char} {xs ys : List Segment} (hx : Reads cs xs)
    (hy : Reads cs ys) : xs = ys := by
  induction hx generalizing ys with
  | nil =>
    cases hy with
    | nil => rfl
    | placeholder start _ => cases start.text_eq
  | placeholder start _ ih =>
    cases hy with
    | nil => cases start.text_eq
    | placeholder start' tail' =>
      have hsame := placeholder?_eq_some_iff.2 start
      rw [placeholder?_eq_some_iff.2 start'] at hsame
      obtain ⟨rfl, rfl⟩ := Prod.mk.inj (Option.some.inj hsame)
      rw [ih tail']
    | char none' _ => exact absurd start (none' _ _)
  | char none _ ih =>
    cases hy with
    | placeholder start' _ => exact absurd start' (none _ _)
    | char _ tail' => rw [ih tail']

/-- The pieces of a text are its only reading. -/
theorem segments_eq_iff {cs : List Char} {xs : List Segment} : segments cs = xs ↔ Reads cs xs := by
  constructor
  · rintro rfl
    exact reads_segments cs
  · exact fun h => (reads_segments cs).unique h

/-- The pieces make up the text. -/
theorem Reads.source_eq {cs : List Char} {xs : List Segment} (h : Reads cs xs) :
    xs.flatMap Segment.source = cs := by
  induction h with
  | nil => rfl
  | placeholder start _ ih => rw [List.flatMap_cons, ih, start.text_eq]
  | char _ _ ih => rw [List.flatMap_cons, ih, Segment.source, List.singleton_append]

/-- Text without an opening brace is read character by character, whatever is behind it. -/
theorem Reads.append_plain {text cs : List Char} {xs : List Segment} (hplain : '\x7b' ∉ text)
    (h : Reads cs xs) : Reads (text ++ cs) (text.map .char ++ xs) := by
  induction text with
  | nil => exact h
  | cons c text ih =>
    rw [List.mem_cons, not_or] at hplain
    exact .char (not_startsWith_of_ne (Ne.symm hplain.1) (text ++ cs)) (ih hplain.2)

end DeclaredTools.Template
