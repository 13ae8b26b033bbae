/-
  Block texts: the lines below a header that are indented deeper than what they belong to. The
  header may fix the indentation and say what becomes of the line breaks at the end.
-/
import DeclaredTools.Yaml.Character
import DeclaredTools.Yaml.Fault

namespace DeclaredTools.Yaml

/-- What becomes of the line breaks at the end: one is kept, none, or all. -/
inductive Chomping where
  | clip
  | strip
  | keep
  deriving DecidableEq

structure BlockHeader where
  chomping : Chomping
  /-- How much deeper the lines are indented, if the header fixes it. -/
  indent : Option Nat

def chomping? (c : Char) : Option Chomping :=
  if c = '+' then some .keep else if c = '-' then some .strip else none

/-- The indicators in either order, and what follows them. -/
def BlockHeader.take : List Char → BlockHeader × List Char
  | [] => (⟨.clip, none⟩, [])
  | a :: cs =>
    match chomping? a, cs with
    | some ch, b :: rest =>
      if b.isDigit then (⟨ch, some (b.toNat - 0x30)⟩, rest) else (⟨ch, none⟩, cs)
    | some ch, [] => (⟨ch, none⟩, [])
    | none, _ =>
      if a.isDigit then
        let width := a.toNat - 0x30
        match cs with
        | b :: rest =>
          match chomping? b with
          | some ch => (⟨ch, some width⟩, rest)
          | none => (⟨.clip, some width⟩, cs)
        | [] => (⟨.clip, some width⟩, [])
      else (⟨.clip, none⟩, a :: cs)

/-- The header with the rest of its line, which may hold a comment only. -/
def readBlockHeader (cs : List Char) : Except Fault (BlockHeader × List Char) :=
  let (header, rest) := BlockHeader.take cs
  if header.indent = some 0 || !atGap rest then .error .malformed
  else
    let rest := skipComment (skipSpaces rest)
    if atLineEnd rest then .ok (header, skipBreak rest) else .error .malformed

/-- Empty lines that were skipped, the column reached, and the rest. -/
structure Skipped where
  breaks : List Char
  column : Nat
  rest : List Char

/-- Skips empty lines and up to `indent` spaces of the line behind them. -/
def skipIndent (indent column : Nat) : List Char → Skipped
  | [] => ⟨[], column, []⟩
  | c :: cs =>
    if c = ' ' && column < indent then skipIndent indent (column + 1) cs
    else if isBreak c then
      let next := skipIndent indent 0 cs
      ⟨breakChar c :: next.breaks, next.column, next.rest⟩
    else ⟨[], column, c :: cs⟩

theorem length_skipIndent_le (indent column : Nat) (cs : List Char) :
    (skipIndent indent column cs).rest.length ≤ cs.length := by
  induction cs generalizing column with
  | nil => simp [skipIndent]
  | cons c cs ih =>
    simp only [skipIndent, List.length_cons]
    split
    · exact Nat.le_succ_of_le (ih _)
    · split
      · exact Nat.le_succ_of_le (ih 0)
      · simp

/-- Skips empty lines and all spaces of the line behind them; also gives the deepest column. -/
def skipLeading (column deepest : Nat) : List Char → Skipped × Nat
  | [] => (⟨[], column, []⟩, deepest)
  | c :: cs =>
    if c = ' ' then skipLeading (column + 1) (max deepest (column + 1)) cs
    else if isBreak c then
      let (next, deepest) := skipLeading 0 deepest cs
      (⟨breakChar c :: next.breaks, next.column, next.rest⟩, deepest)
    else (⟨[], column, c :: cs⟩, deepest)

/-- A line of text, the breaks of the empty lines before it, and its own break, which is missing
where the document ends. -/
structure BlockLine where
  breaks : List Char
  first : Char
  more : List Char
  ending : List Char

/-- The break that a line ends with. -/
def lineEnding : List Char → List Char
  | [] => []
  | c :: _ => [breakChar c]

/-- The lines that are indented as far as `indent`, and what comes behind them. -/
def blockLines (indent : Nat) : Skipped → List BlockLine × Skipped
  | ⟨breaks, column, []⟩ => ([], ⟨breaks, column, []⟩)
  | ⟨breaks, column, c :: cs⟩ =>
    if column ≠ indent then ([], ⟨breaks, column, c :: cs⟩)
    else
      let behind := cs.dropWhile (!isBreak ·)
      let (lines, last) := blockLines indent (skipIndent indent 0 (skipBreak behind))
      (⟨breaks, c, cs.takeWhile (!isBreak ·), lineEnding behind⟩ :: lines, last)
  termination_by s => s.rest.length
  decreasing_by
    have h₁ := length_skipIndent_le indent 0 (skipBreak (cs.dropWhile (!isBreak ·)))
    have h₂ := length_skipBreak_le (cs.dropWhile (!isBreak ·))
    have h₃ := (cs.dropWhile_sublist (!isBreak ·)).length_le
    simp only [List.length_cons]
    omega

/-- What stands between two lines: their break, or its folded form between lines of text. -/
def joint (folding : Bool) (a b : BlockLine) : List Char :=
  if folding && a.ending = ['\n'] && !isSpace a.first && !isSpace b.first then
    (if b.breaks.isEmpty then [' '] else [])
  else a.ending

def joined (folding : Bool) : List BlockLine → List Char
  | [] => []
  | [a] => a.breaks ++ a.first :: a.more
  | a :: b :: lines =>
    a.breaks ++ a.first :: a.more ++ joint folding a b ++ joined folding (b :: lines)

/-- The break of the last line and those of the empty lines behind it. -/
def chomped (ch : Chomping) (lines : List BlockLine) (breaks : List Char) : List Char :=
  let ending := (lines.getLast?.map BlockLine.ending).getD []
  match ch with
  | .clip => ending
  | .strip => []
  | .keep => ending ++ breaks

/-- A block text behind its indicator, within a block that is indented as far as `outer`. -/
def readBlock (folding : Bool) (outer : Int) (cs : List Char) :
    Except Fault (String × List Char) := do
  let (header, rest) ← readBlockHeader cs
  let least := max (outer + 1).toNat 1
  let (indent, start) :=
    match header.indent with
    | some width => (least + width - 1, skipIndent (least + width - 1) 0 rest)
    | none =>
      let (start, deepest) := skipLeading 0 0 rest
      (max least deepest, start)
  let (lines, last) := blockLines indent start
  return (String.ofList (joined folding lines ++ chomped header.chomping lines last.breaks),
    last.rest)

end DeclaredTools.Yaml
