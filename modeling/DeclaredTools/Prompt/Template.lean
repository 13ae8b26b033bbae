/-
  Templates: text with placeholders between double braces. A placeholder that names an argument is
  replaced by the argument's text, any other stays as it is, and what was put in is not read again.
-/
import DeclaredTools.Json.Printer
import DeclaredTools.Text.Blank

namespace DeclaredTools

/-- Arguments by name, in the order in which they were given. -/
abbrev Arguments := List (Value × Value)

/-- How an argument reads inside a prompt: texts as they are, lists and maps as JSON, and numbers
without a fraction as integers. -/
def stringify : Value → Except Unwritable String
  | .text s => .ok s
  | .bool b => .ok (if b then "true" else "false")
  | .null => .ok "null"
  | .float x =>
    match x.toInt? with
    | some n => .ok (toString n)
    | none => .ok (Value.floatText x)
  | .list xs => Json.compact (.list xs)
  | .map es => Json.compact (.map es)
  | v => v.written

namespace Template

/-- A piece of a template: one character, or a placeholder with what stands between its braces. -/
inductive Segment where
  | char (c : Char)
  | placeholder (body : List Char)
  deriving DecidableEq

/-- The body of a placeholder that begins here, and what stands behind it. The body is not empty
and holds no closing brace. -/
def placeholder? : List Char → Option (List Char × List Char)
  | '\x7b' :: '\x7b' :: cs =>
    let body := cs.takeWhile (· ≠ '\x7d')
    if body.isEmpty then none
    else
      match cs.dropWhile (· ≠ '\x7d') with
      | '\x7d' :: '\x7d' :: rest => some (body, rest)
      | _ => none
  | _ => none

theorem length_lt_of_placeholder? {cs body rest : List Char}
    (h : placeholder? cs = some (body, rest)) : rest.length < cs.length := by
  unfold placeholder? at h
  split at h
  · next cs =>
    simp only at h
    split at h
    · simp at h
    · split at h
      · next r hr =>
        simp only [Option.some.injEq, Prod.mk.injEq] at h
        obtain ⟨-, rfl⟩ := h
        have := (List.dropWhile_suffix (l := cs) (· ≠ '\x7d')).length_le
        rw [hr] at this
        simp only [List.length_cons] at *
        omega
      · simp at h
  · simp at h

/-- The pieces of a template, from left to right. -/
def segments : List Char → List Segment
  | [] => []
  | c :: cs =>
    match h : placeholder? (c :: cs) with
    | some (body, rest) =>
      have := length_lt_of_placeholder? h
      .placeholder body :: segments rest
    | none => .char c :: segments cs
  termination_by cs => cs.length
  decreasing_by
    · exact this
    · exact Nat.lt_succ_self _

/-- The text of a piece. -/
def Segment.source : Segment → List Char
  | .char c => [c]
  | .placeholder body => '\x7b' :: '\x7b' :: body ++ ['\x7d', '\x7d']

/-- The name in a placeholder. -/
def nameIn (body : List Char) : String := String.ofList (Text.trimChars body)

end Template

/-- Rendered text, and the names of the arguments in it, one for each place. -/
structure Rendered where
  text : String
  used : List String

namespace Template

/-- A piece with the argument that it names put in. -/
def renderSegment (args : Arguments) (s : Segment) : Except Unwritable Rendered :=
  match s with
  | .char c => .ok ⟨c.toString, []⟩
  | .placeholder body =>
    match Value.lookup (nameIn body) args with
    | some v => (stringify v).map fun t => ⟨t, [nameIn body]⟩
    | none => .ok ⟨String.ofList s.source, []⟩

/-- The pieces one behind the other. -/
def joined (pieces : List Rendered) : Rendered :=
  ⟨String.join (pieces.map (·.text)), pieces.flatMap (·.used)⟩

/-- The template with its arguments put in; no template renders to nothing. -/
def render (template : Option String) (args : Arguments) : Except Unwritable Rendered :=
  match template with
  | none => .ok ⟨"", []⟩
  | some text =>
    if args.isEmpty then .ok ⟨text, []⟩
    else ((segments text.toList).mapM (renderSegment args)).map joined

end Template

end DeclaredTools
