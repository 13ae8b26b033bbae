/-
  Rendering is substitution in one pass. A template that is put together from plain texts and
  placeholders is rendered by putting the arguments into its placeholders and leaving all else as it
  is (`render_sourceOf`). What an argument says is not read: it stands in the result as it is,
  whatever braces it holds.

  Any text at all is rendered piece by piece (`render_eq`); what the pieces are is said in
  `Prompt.Segments`.
-/
import DeclaredTools.Proofs.Prompt.Segments
import DeclaredTools.Proofs.Result

namespace DeclaredTools.Template

open Result

/-! ## Pieces -/

/-- The argument that a body names, with its name. -/
def argumentIn (args : Arguments) (body : List Char) : Option (String × Value) :=
  (Value.lookup (nameIn body) args).map fun v => (nameIn body, v)

namespace Segment

/-- The argument that is put into a piece. -/
def argument? (args : Arguments) : Segment → Option (String × Value)
  | .char _ => none
  | .placeholder body => argumentIn args body

/-- The text of a piece with the argument put in. -/
def filled (args : Arguments) (s : Segment) : Except Unwritable String :=
  match s.argument? args with
  | some (_, v) => stringify v
  | none => .ok (String.ofList s.source)

theorem filled_placeholder_none {args : Arguments} {body : List Char}
    (h : Value.lookup (nameIn body) args = none) :
    (placeholder body).filled args = .ok (String.ofList (placeholder body).source) := by
  simp [filled, argument?, argumentIn, h]

theorem filled_placeholder_some {args : Arguments} {body : List Char} {v : Value}
    (h : Value.lookup (nameIn body) args = some v) :
    (placeholder body).filled args = stringify v := by
  simp [filled, argument?, argumentIn, h]

end Segment

/-- The names of the arguments that are put into the pieces. -/
def usedIn (args : Arguments) (xs : List Segment) : List String :=
  (xs.filterMap (Segment.argument? args)).map Prod.fst

theorem usedIn_placeholder_none {args : Arguments} {body : List Char}
    (h : Value.lookup (nameIn body) args = none) : usedIn args [.placeholder body] = [] := by
  simp [usedIn, Segment.argument?, argumentIn, h]

theorem usedIn_placeholder_some {args : Arguments} {body : List Char} {v : Value}
    (h : Value.lookup (nameIn body) args = some v) :
    usedIn args [.placeholder body] = [nameIn body] := by
  simp [usedIn, Segment.argument?, argumentIn, h]

theorem usedIn_append (args : Arguments) (xs ys : List Segment) :
    usedIn args (xs ++ ys) = usedIn args xs ++ usedIn args ys := by
  simp [usedIn]

theorem renderSegment_eq (args : Arguments) (s : Segment) :
    renderSegment args s = (s.filled args).map fun text => ⟨text, usedIn args [s]⟩ := by
  cases s with
  | char c =>
    have htext : c.toString = String.ofList [c] := by simp
    show Except.ok _ = Except.ok _
    rw [htext]
    rfl
  | placeholder body =>
    dsimp only [renderSegment]
    cases hv : Value.lookup (nameIn body) args with
    | none =>
      rw [Segment.filled_placeholder_none hv, usedIn_placeholder_none hv]
      rfl
    | some v => rw [Segment.filled_placeholder_some hv, usedIn_placeholder_some hv]

theorem map_joined_cons (piece : Rendered) (pieces : Except Unwritable (List Rendered)) :
    (pieces >>= fun rest => pure (piece :: rest)).map joined =
      (pieces.map joined).map fun r => ⟨piece.text ++ r.text, piece.used ++ r.used⟩ := by
  cases pieces with
  | error e => rfl
  | ok rest =>
    show Except.ok (joined (piece :: rest)) = Except.ok _
    simp [joined, String.join_cons]

theorem joined_renderSegments (args : Arguments) (xs : List Segment) :
    (xs.mapM (renderSegment args)).map joined =
      (concatM (Segment.filled args) xs).map fun text => ⟨text, usedIn args xs⟩ := by
  induction xs with
  | nil => rfl
  | cons s xs ih =>
    have hused : usedIn args (s :: xs) = usedIn args [s] ++ usedIn args xs :=
      usedIn_append args [s] xs
    rw [List.mapM_cons, renderSegment_eq, concatM_cons, hused]
    cases s.filled args with
    | error e => rfl
    | ok a =>
      refine (map_joined_cons ⟨a, usedIn args [s]⟩ (xs.mapM (renderSegment args))).trans ?_
      rw [ih]
      cases concatM (Segment.filled args) xs <;> rfl

theorem filled_nil (s : Segment) : s.filled [] = .ok (String.ofList s.source) := by
  cases s <;> rfl

theorem usedIn_nil (xs : List Segment) : usedIn [] xs = [] := by
  have hnone : Segment.argument? [] = fun _ => none := by
    funext s
    cases s <;> rfl
  simp [usedIn, hnone]

theorem join_source (cs : List Char) :
    String.join ((segments cs).map fun s => String.ofList s.source) = String.ofList cs := by
  rw [← String.toList_inj, String.toList_join, List.flatMap_map]
  simp only [String.toList_ofList]
  exact (reads_segments cs).source_eq

/-- A text is rendered piece by piece, also when there are no arguments. -/
theorem render_eq (text : String) (args : Arguments) :
    render (some text) args =
      (concatM (Segment.filled args) (segments text.toList)).map fun rendered =>
        ⟨rendered, usedIn args (segments text.toList)⟩ := by
  unfold render
  dsimp only
  split
  · next hempty =>
    obtain rfl := List.isEmpty_iff.1 hempty
    rw [concatM_eq_ok fun s _ => filled_nil s, usedIn_nil, join_source, String.ofList_toList]
    rfl
  · exact joined_renderSegments args _

/-- Characters that belong to no placeholder stay as they are. -/
theorem concatM_filled_chars (args : Arguments) (text : List Char) :
    concatM (Segment.filled args) (text.map .char) = .ok (String.ofList text) := by
  have hchar : ∀ s ∈ text.map Segment.char, s.filled args = .ok (String.ofList s.source) := by
    intro s hs
    obtain ⟨c, -, rfl⟩ := List.mem_map.1 hs
    rfl
  have hjoin : String.join ((text.map Segment.char).map fun s => String.ofList s.source) =
      String.ofList text := by
    rw [← String.toList_inj, String.toList_join, List.flatMap_map, List.flatMap_map]
    simp [Segment.source]
  rw [concatM_eq_ok hchar, hjoin]

theorem filterMap_argument?_chars (args : Arguments) (text : List Char) :
    (text.map Segment.char).filterMap (Segment.argument? args) = [] := by
  rw [List.filterMap_map]
  exact List.filterMap_eq_nil_iff.2 fun c _ => rfl

/-! ## Templates put together -/

/-- A part from which templates are put together: text without an opening brace, or a placeholder
with a body between its braces. -/
inductive Part where
  | literal (text : List Char) (plain : '\x7b' ∉ text)
  | placeholder (body : List Char) (ne_nil : body ≠ []) (closed : '\x7d' ∉ body)

namespace Part

/-- The text of a part. -/
def source : Part → List Char
  | .literal text _ => text
  | .placeholder body _ _ => '\x7b' :: '\x7b' :: body ++ ['\x7d', '\x7d']

/-- The argument that is put into a part, with its name: only a placeholder takes one, namely the
one that its body names but for blanks at its ends. -/
def argument? (args : Arguments) : Part → Option (String × Value)
  | .literal _ _ => none
  | .placeholder body _ _ => argumentIn args body

/-- The text of a part with the argument put in; a part that takes none stays as it is. -/
def filled (args : Arguments) (part : Part) : Except Unwritable String :=
  match part.argument? args with
  | some (_, v) => stringify v
  | none => .ok (String.ofList part.source)

/-- The pieces as which a part is read. -/
def segments : Part → List Segment
  | .literal text _ => text.map .char
  | .placeholder body _ _ => [.placeholder body]

theorem reads_append (part : Part) {cs : List Char} {xs : List Segment} (h : Reads cs xs) :
    Reads (part.source ++ cs) (part.segments ++ xs) := by
  cases part with
  | literal text plain => exact h.append_plain plain
  | placeholder body ne_nil closed => exact .placeholder ⟨ne_nil, closed, rfl⟩ h

theorem concatM_filled_segments (args : Arguments) (part : Part) :
    concatM (Segment.filled args) part.segments = part.filled args := by
  cases part with
  | literal text plain => exact concatM_filled_chars args text
  | placeholder body ne_nil closed => exact concatM_singleton _ _

theorem filterMap_argument?_segments (args : Arguments) (part : Part) :
    part.segments.filterMap (Segment.argument? args) = (part.argument? args).toList := by
  cases part with
  | literal text plain => exact filterMap_argument?_chars args text
  | placeholder body ne_nil closed =>
    show [Segment.placeholder body].filterMap (Segment.argument? args) =
      (argumentIn args body).toList
    cases h : argumentIn args body <;> simp [Segment.argument?, h]

end Part

/-- The template that the parts make one behind the other. -/
def sourceOf (parts : List Part) : String := String.ofList (parts.flatMap Part.source)

/-- A template is read as the parts of which it was put together. -/
theorem reads_sourceOf (parts : List Part) :
    Reads (parts.flatMap Part.source) (parts.flatMap Part.segments) := by
  induction parts with
  | nil => exact .nil
  | cons part parts ih =>
    rw [List.flatMap_cons, List.flatMap_cons]
    exact part.reads_append ih

/-- **Rendering is substitution in one pass.** A template that is put together from plain texts and
placeholders is rendered part by part: a placeholder that names an argument gives the text of that
argument and every other part its own text, character by character. The texts stand one behind the
other as they are, and the names used are those of the arguments put in. If an argument that is
put in has no text, there is no result. -/
theorem render_sourceOf (parts : List Part) (args : Arguments) :
    render (some (sourceOf parts)) args =
      (parts.mapM (Part.filled args)).map fun texts =>
        ⟨String.join texts, (parts.filterMap (Part.argument? args)).map Prod.fst⟩ := by
  have hsegments : Template.segments (sourceOf parts).toList = parts.flatMap Part.segments := by
    rw [sourceOf, String.toList_ofList, segments_eq_iff]
    exact reads_sourceOf parts
  have htext : concatM (Segment.filled args) (parts.flatMap Part.segments) =
      concatM (Part.filled args) parts := by
    rw [concatM_flatMap]
    exact concatM_congr fun part _ => part.concatM_filled_segments args
  have hused : usedIn args (parts.flatMap Part.segments) =
      (parts.filterMap (Part.argument? args)).map Prod.fst := by
    rw [usedIn, List.filterMap_flatMap]
    simp only [Part.filterMap_argument?_segments]
    rw [← List.filterMap_eq_flatMap_toList]
  rw [render_eq, hsegments, htext, hused]
  unfold concatM
  cases parts.mapM (Part.filled args) <;> rfl

-- A blank body and an unknown name stay, and so does a placeholder in the text of an argument.
example :
    ((render (some "\x7b\x7b \x7d\x7d\x7b\x7b a\x7d\x7d\x7d \x7b\x7bx\x7d\x7d")
      [(.text "a", .text "\x7b\x7bb\x7d\x7d"), (.text "b", .null)]).map (·.text)).toOption =
      some "\x7b\x7b \x7d\x7d\x7b\x7bb\x7d\x7d\x7d \x7b\x7bx\x7d\x7d" := by
  decide +kernel

end DeclaredTools.Template
