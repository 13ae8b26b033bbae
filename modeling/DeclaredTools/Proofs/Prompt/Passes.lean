/-
  Rendering in two passes. Some arguments are put into a template and others, later, into the text
  that this gave; the result is that of all arguments at once (`render_union`), provided that the
  texts of the first are not empty and hold no braces.

  Braces that belong to no placeholder are what makes this more than a fact about lists: such a text
  must not complete them to a placeholder, nor may it break one that is left for the second pass.
  It does neither, because whatever is a placeholder afterwards was one before
  (`startsWith_of_refilled`). An empty text could: without its second name `{{a}{{b}}}` is a
  placeholder.
-/
import DeclaredTools.Proofs.Prompt.Substitution

namespace DeclaredTools.Template

open Result

/-! ## Placeholders replaced by plain texts -/

/-- The text is not empty and has no braces. -/
structure IsPlain (text : List Char) : Prop where
  ne_nil : text ≠ []
  not_open : '\x7b' ∉ text
  not_closed : '\x7d' ∉ text

/-- The pieces in place of one: for a placeholder that is replaced the characters of the text, for
any other piece the piece itself. -/
def Segment.replaced (fill : List Char → Option (List Char)) : Segment → List Segment
  | .char c => [.char c]
  | .placeholder body =>
    match fill body with
    | some text => text.map .char
    | none => [.placeholder body]

/-- The text of the pieces with some placeholders replaced. -/
def refilled (fill : List Char → Option (List Char)) (xs : List Segment) : List Char :=
  (xs.flatMap (Segment.replaced fill)).flatMap Segment.source

theorem source_map_char (text : List Char) :
    (text.map Segment.char).flatMap Segment.source = text := by
  rw [List.flatMap_map]
  simp [Segment.source]

section Refilled

variable {fill : List Char → Option (List Char)}

theorem refilled_char (c : Char) (xs : List Segment) :
    refilled fill (.char c :: xs) = c :: refilled fill xs := rfl

theorem refilled_placeholder_none {body : List Char} (h : fill body = none) (xs : List Segment) :
    refilled fill (.placeholder body :: xs) =
      (Segment.placeholder body).source ++ refilled fill xs := by
  simp [refilled, Segment.replaced, h]

theorem refilled_placeholder_some {body text : List Char} (h : fill body = some text)
    (xs : List Segment) : refilled fill (.placeholder body :: xs) = text ++ refilled fill xs := by
  simp [refilled, Segment.replaced, h, source_map_char]

/-- A closing brace at the front was there before. -/
theorem closed_of_refilled (hfill : ∀ body text, fill body = some text → IsPlain text)
    {cs : List Char} {xs : List Segment} (h : Reads cs xs) {rest : List Char}
    (heq : refilled fill xs = '\x7d' :: rest) : ∃ rest', cs = '\x7d' :: rest' := by
  cases h with
  | nil => cases heq
  | @placeholder _ body _ xs start tail =>
    exfalso
    cases hb : fill body with
    | none =>
      rw [refilled_placeholder_none hb, source_append] at heq
      simp at heq
    | some text =>
      have hplain := hfill body text hb
      rw [refilled_placeholder_some hb] at heq
      cases text with
      | nil => exact hplain.ne_nil rfl
      | cons c text =>
        have hc : c = '\x7d' := (List.cons.inj heq).1
        exact hplain.not_closed (hc ▸ List.mem_cons_self)
  | @char c cs _ start tail =>
    rw [refilled_char] at heq
    exact ⟨cs, by rw [(List.cons.inj heq).1]⟩

/-- A body that ends with two closing braces was one before, if not the same. -/
theorem body_of_refilled (hfill : ∀ body text, fill body = some text → IsPlain text)
    {cs : List Char} {xs : List Segment} (h : Reads cs xs) {body rest : List Char}
    (hclosed : '\x7d' ∉ body) (heq : refilled fill xs = body ++ '\x7d' :: '\x7d' :: rest) :
    ∃ body' rest', '\x7d' ∉ body' ∧ (body ≠ [] → body' ≠ []) ∧
      cs = body' ++ '\x7d' :: '\x7d' :: rest' := by
  induction h generalizing body with
  | nil => simp [refilled] at heq
  | @placeholder cs inner rest' xs start tail ih =>
    -- a placeholder ends with two closing braces itself
    refine ⟨'\x7b' :: '\x7b' :: inner, rest', by simp [start.body_closed], by simp, ?_⟩
    rw [start.text_eq, source_append]
    rfl
  | @char c cs xs start tail ih =>
    rw [refilled_char] at heq
    cases body with
    | nil =>
      obtain ⟨rfl, hrest⟩ := List.cons.inj heq
      obtain ⟨rest', rfl⟩ := closed_of_refilled hfill tail hrest
      exact ⟨[], rest', by simp, by simp, rfl⟩
    | cons d body =>
      obtain ⟨rfl, hbody⟩ := List.cons.inj heq
      rw [List.mem_cons, not_or] at hclosed
      obtain ⟨body', rest', hclosed', -, rfl⟩ := ih hclosed.2 hbody
      exact ⟨c :: body', rest', by simp [hclosed.1, hclosed'], by simp, rfl⟩

/-- A character that starts a placeholder afterwards started one before. -/
theorem startsWith_of_refilled (hfill : ∀ body text, fill body = some text → IsPlain text)
    {c : Char} {cs : List Char} {xs : List Segment} (h : Reads cs xs) {body rest : List Char}
    (hstarts : StartsWith (c :: refilled fill xs) body rest) :
    ∃ body' rest', StartsWith (c :: cs) body' rest' := by
  have htext := hstarts.text_eq
  rw [source_append] at htext
  obtain ⟨rfl, hsecond⟩ := List.cons.inj htext
  cases h with
  | nil => cases hsecond
  | @placeholder _ inner rest' _ start tail =>
    -- three opening braces: the first of them starts the placeholder
    refine ⟨'\x7b' :: inner, rest', by simp, by simp [start.body_closed], ?_⟩
    rw [start.text_eq, source_append, source_append]
    rfl
  | char start tail =>
    rw [refilled_char] at hsecond
    obtain ⟨rfl, hbody⟩ := List.cons.inj hsecond
    obtain ⟨body', rest', hclosed, hne, rfl⟩ :=
      body_of_refilled hfill tail hstarts.body_closed hbody
    exact ⟨body', rest', hne hstarts.body_ne_nil, hclosed, by rw [source_append]⟩

/-- Plain texts in place of some placeholders leave all else as it was read. -/
theorem Reads.refilled (hfill : ∀ body text, fill body = some text → IsPlain text)
    {cs : List Char} {xs : List Segment} (h : Reads cs xs) :
    Reads (refilled fill xs) (xs.flatMap (Segment.replaced fill)) := by
  induction h with
  | nil => exact .nil
  | @placeholder _ body _ xs start tail ih =>
    cases hb : fill body with
    | none =>
      rw [refilled_placeholder_none hb, List.flatMap_cons, Segment.replaced, hb]
      exact .placeholder ⟨start.body_ne_nil, start.body_closed, rfl⟩ ih
    | some text =>
      rw [refilled_placeholder_some hb, List.flatMap_cons, Segment.replaced, hb]
      exact ih.append_plain (hfill body text hb).not_open
  | @char c cs xs start tail ih =>
    refine .char (fun body rest hstarts => ?_) ih
    obtain ⟨body', rest', hbefore⟩ := startsWith_of_refilled hfill tail hstarts
    exact start body' rest' hbefore

end Refilled

/-! ## Passes -/

/-- Arguments of two mappings together: what is under a name is what the first has there, or else
what the second has. If no name is in both, neither has precedence. -/
def IsUnion (union first second : Arguments) : Prop :=
  ∀ name, Value.lookup name union = (Value.lookup name first).or (Value.lookup name second)

/-- Every argument has a text, which is not empty and holds no braces. -/
def ArePlain (args : Arguments) : Prop :=
  ∀ name v, Value.lookup name args = some v → ∃ text, stringify v = .ok text ∧ IsPlain text.toList

/-- The text of the argument that a body names. -/
def textIn (args : Arguments) (body : List Char) : Option (List Char) :=
  (Value.lookup (nameIn body) args).bind fun v => (stringify v).toOption.map String.toList

section Passes

variable {first second union : Arguments}

theorem textIn_eq_none {body : List Char} (h : Value.lookup (nameIn body) first = none) :
    textIn first body = none := by
  rw [textIn, h]
  rfl

theorem textIn_eq_some {body : List Char} {v : Value} {text : String}
    (h : Value.lookup (nameIn body) first = some v) (htext : stringify v = .ok text) :
    textIn first body = some text.toList := by
  rw [textIn, h, Option.bind_some, htext]
  rfl

theorem isPlain_of_textIn (h : ArePlain first) (body text : List Char)
    (htext : textIn first body = some text) : IsPlain text := by
  cases hv : Value.lookup (nameIn body) first with
  | none =>
    rw [textIn_eq_none hv] at htext
    cases htext
  | some v =>
    obtain ⟨s, hs, hplain⟩ := h _ v hv
    rw [textIn_eq_some hv hs] at htext
    exact Option.some.inj htext ▸ hplain

theorem IsUnion.lookup_of_none (h : IsUnion union first second) {name : String}
    (hfirst : Value.lookup name first = none) :
    Value.lookup name union = Value.lookup name second := by
  rw [h, hfirst, Option.none_or]

theorem IsUnion.lookup_of_some (h : IsUnion union first second) {name : String} {v : Value}
    (hfirst : Value.lookup name first = some v) : Value.lookup name union = some v := by
  rw [h, hfirst, Option.some_or]

/-- The first pass puts in the texts of its arguments. -/
theorem filled_first (h : ArePlain first) (s : Segment) :
    s.filled first = .ok (String.ofList ((s.replaced (textIn first)).flatMap Segment.source)) := by
  cases s with
  | char c => rfl
  | placeholder body =>
    cases hv : Value.lookup (nameIn body) first with
    | none =>
      rw [Segment.filled_placeholder_none hv, Segment.replaced, textIn_eq_none hv]
      simp
    | some v =>
      obtain ⟨text, htext, -⟩ := h _ v hv
      rw [Segment.filled_placeholder_some hv, Segment.replaced, textIn_eq_some hv htext, htext]
      simp [source_map_char]

theorem render_first (h : ArePlain first) (template : String) :
    render (some template) first =
      .ok ⟨String.ofList (refilled (textIn first) (segments template.toList)),
        usedIn first (segments template.toList)⟩ := by
  have hjoin : String.join ((segments template.toList).map fun s =>
      String.ofList ((s.replaced (textIn first)).flatMap Segment.source)) =
      String.ofList (refilled (textIn first) (segments template.toList)) := by
    rw [← String.toList_inj, String.toList_join, List.flatMap_map, String.toList_ofList, refilled,
      List.flatMap_assoc]
    simp only [String.toList_ofList]
  rw [render_eq, concatM_eq_ok fun s _ => filled_first h s, hjoin]
  rfl

/-- A piece that the first pass has dealt with gives in the second what it gives in the only one. -/
theorem concatM_filled_replaced (h : ArePlain first) (hunion : IsUnion union first second)
    (s : Segment) :
    concatM (Segment.filled second) (s.replaced (textIn first)) = s.filled union := by
  cases s with
  | char c => exact concatM_singleton _ _
  | placeholder body =>
    cases hv : Value.lookup (nameIn body) first with
    | none =>
      have hlookup := hunion.lookup_of_none hv
      rw [Segment.replaced, textIn_eq_none hv]
      refine (concatM_singleton _ _).trans ?_
      simp only [Segment.filled, Segment.argument?, argumentIn, hlookup]
    | some v =>
      obtain ⟨text, htext, -⟩ := h _ v hv
      rw [Segment.replaced, textIn_eq_some hv htext]
      refine (concatM_filled_chars second text.toList).trans ?_
      rw [Segment.filled_placeholder_some (hunion.lookup_of_some hv), htext, String.ofList_toList]

/-- Each name is used in the first pass or in the second. -/
theorem usedIn_replaced (h : ArePlain first) (hunion : IsUnion union first second) (s : Segment) :
    usedIn union [s] = usedIn first [s] ++ usedIn second (s.replaced (textIn first)) := by
  cases s with
  | char c => rfl
  | placeholder body =>
    cases hv : Value.lookup (nameIn body) first with
    | none =>
      have hlookup := hunion.lookup_of_none hv
      rw [Segment.replaced, textIn_eq_none hv, usedIn_placeholder_none hv, List.nil_append]
      simp only [usedIn, List.filterMap_cons, List.filterMap_nil, Segment.argument?, argumentIn,
        hlookup]
    | some v =>
      obtain ⟨text, htext, -⟩ := h _ v hv
      have hchars : usedIn second (text.toList.map .char) = [] := by
        rw [usedIn, filterMap_argument?_chars, List.map_nil]
      rw [Segment.replaced, textIn_eq_some hv htext, usedIn_placeholder_some hv,
        usedIn_placeholder_some (hunion.lookup_of_some hv)]
      show _ = [nameIn body] ++ usedIn second (text.toList.map .char)
      rw [hchars, List.append_nil]

theorem usedIn_perm (h : ArePlain first) (hunion : IsUnion union first second)
    (xs : List Segment) :
    (usedIn union xs).Perm
      (usedIn first xs ++ usedIn second (xs.flatMap (Segment.replaced (textIn first)))) := by
  induction xs with
  | nil => exact List.Perm.nil
  | cons s xs ih =>
    have hcons : ∀ args, usedIn args (s :: xs) = usedIn args [s] ++ usedIn args xs :=
      fun args => usedIn_append args [s] xs
    rw [hcons, hcons, List.flatMap_cons, usedIn_append, usedIn_replaced h hunion s]
    -- the names of the first piece in the second pass move behind those of the rest in the first
    refine (ih.append_left _).trans ?_
    rw [List.append_assoc, List.append_assoc]
    exact (List.perm_append_comm_assoc _ _ _).append_left _

/-- **Rendering composes.** If the texts of the first arguments are not empty and hold no braces,
then rendering a template with these and the result with the second ones gives the text that
rendering it once with the union gives, or the same error, and both passes together use the names
that the single one uses, each in as many places. -/
theorem render_union (hplain : ArePlain first) (hunion : IsUnion union first second)
    (template : String) :
    ∃ rendered, render (some template) first = .ok rendered ∧
      (render (some template) union).map (·.text) =
        (render (some rendered.text) second).map (·.text) ∧
      ∀ once again, render (some template) union = .ok once →
        render (some rendered.text) second = .ok again →
        once.used.Perm (rendered.used ++ again.used) := by
  have hsegments : segments (refilled (textIn first) (segments template.toList)) =
      (segments template.toList).flatMap (Segment.replaced (textIn first)) := by
    rw [segments_eq_iff]
    exact (reads_segments template.toList).refilled (isPlain_of_textIn hplain)
  have htext : concatM (Segment.filled second)
      ((segments template.toList).flatMap (Segment.replaced (textIn first))) =
      concatM (Segment.filled union) (segments template.toList) := by
    rw [concatM_flatMap]
    exact concatM_congr fun s _ => concatM_filled_replaced hplain hunion s
  refine ⟨_, render_first hplain template, ?_, fun once again honce hagain => ?_⟩
  · rw [render_eq, render_eq, String.toList_ofList, hsegments, htext]
    cases concatM (Segment.filled union) (segments template.toList) <;> rfl
  · rw [render_eq] at honce hagain
    rw [String.toList_ofList, hsegments] at hagain
    obtain ⟨_, -, rfl⟩ := map_eq_ok honce
    obtain ⟨_, -, rfl⟩ := map_eq_ok hagain
    exact usedIn_perm hplain hunion _

end Passes

/-- A number is put in first, and then a text with braces, into which nothing is put again. The two
braces at the front belong to no placeholder, and the third of three belongs to a body. -/
theorem render_union_braced :
    let first : Arguments := [(.text "n", .int 5)]
    let second : Arguments := [(.text "t", .text "\x7b\x7bn\x7d\x7d")]
    let union : Arguments := second ++ first
    let template := "\x7b\x7b\x7d\x7b\x7b n \x7d\x7d\x7b\x7bt\x7d\x7d\x7b\x7b\x7bn\x7d\x7d\x7d"
    ArePlain first ∧ IsUnion union first second ∧
      (∃ rendered, render (some template) first = .ok rendered ∧
        (render (some template) union).map (·.text) =
          (render (some rendered.text) second).map (·.text) ∧
        ∀ once again, render (some template) union = .ok once →
          render (some rendered.text) second = .ok again →
          once.used.Perm (rendered.used ++ again.used)) ∧
      ((render (some template) union).map (·.text)).toOption =
        some "\x7b\x7b\x7d5\x7b\x7bn\x7d\x7d\x7b\x7b\x7bn\x7d\x7d\x7d" := by
  intro first second union template
  have hplain : ArePlain first := by
    intro name v hv
    simp only [first, Value.lookup] at hv
    split at hv
    · obtain rfl := Option.some.inj hv
      exact ⟨"5", rfl, by decide, by decide, by decide⟩
    · cases hv
  have hunion : IsUnion union first second := by
    intro name
    by_cases hn : "n" = name
    · subst hn
      rfl
    · by_cases ht : "t" = name <;> simp [union, first, second, Value.lookup, Value.isText, hn, ht]
  exact ⟨hplain, hunion, render_union hplain hunion template, by decide +kernel⟩

end DeclaredTools.Template
