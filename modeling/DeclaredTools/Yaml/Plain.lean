/-
  Plain texts: words without quotation marks, over several lines as long as they stay indented.
-/
import DeclaredTools.Yaml.Quoted

namespace DeclaredTools.Yaml

/-- Marks that no plain text starts with. -/
def indicators : List Char := "-?:,[]\x7b\x7d#&*!|>\x27\x22%@\x60".toList

/-- Marks that separate within brackets. -/
def flowMarks : List Char := [',', '?', '[', ']', '{', '}']

/-- A plain text can start here. -/
def startsPlain (flow : Bool) : List Char → Bool
  | [] => false
  | c :: cs =>
    (!isBlank c && !indicators.contains c)
      || (!atBlank cs && (c = '-' || (!flow && (c = '?' || c = ':'))))

/-- A colon here ends a plain text. -/
def colonEnds (flow : Bool) : List Char → Bool
  | [] => true
  | c :: _ => isBlank c || (flow && [',', '[', ']', '{', '}'].contains c)

/-- The characters up to the next blank or separating mark. -/
def takeWord (flow : Bool) : List Char → List Char × List Char
  | [] => ([], [])
  | c :: cs =>
    if isBlank c || (c = ':' && colonEnds flow cs) || (flow && flowMarks.contains c) then
      ([], c :: cs)
    else
      let (word, rest) := takeWord flow cs
      (c :: word, rest)

theorem length_takeWord (flow : Bool) (cs : List Char) :
    (takeWord flow cs).1.length + (takeWord flow cs).2.length = cs.length := by
  induction cs with
  | nil => rfl
  | cons c cs ih =>
    simp only [takeWord]
    split
    · simp
    · simp only [List.length_cons]; omega

/-- The gap behind a word. -/
structure Gap where
  /-- What it stands for; nothing if no word can follow. -/
  text : List Char
  /-- A line was ended. -/
  broken : Bool
  /-- The column reached in a new line. -/
  column : Nat
  rest : List Char

/-- Empty lines and indentation; the line breaks are lost where a line separates documents. -/
def gapBreaks (column : Nat) : List Char → Option (List Char) × Nat × List Char
  | [] => (some [], column, [])
  | c :: cs =>
    if c = ' ' then gapBreaks (column + 1) cs
    else if isBreak c then
      if atSeparator cs then (none, 0, cs)
      else
        let (breaks, column, rest) := gapBreaks 0 cs
        (breaks.map (breakChar c :: ·), column, rest)
    else (some [], column, c :: cs)

/-- The spaces behind a word, with the line breaks among them. -/
def takeGap (cs : List Char) : Gap :=
  match skipSpaces cs with
  | [] => ⟨cs.takeWhile (· = ' '), false, 0, []⟩
  | c :: rest =>
    if isBreak c then
      if atSeparator rest then ⟨[], true, 0, rest⟩
      else
        let (breaks, column, rest) := gapBreaks 0 rest
        ⟨(breaks.map (folded c)).getD [], true, column, rest⟩
    else ⟨cs.takeWhile (· = ' '), false, 0, c :: rest⟩

theorem length_gapBreaks_le (column : Nat) (cs : List Char) :
    (gapBreaks column cs).2.2.length ≤ cs.length := by
  induction cs generalizing column with
  | nil => simp [gapBreaks]
  | cons c cs ih =>
    simp only [gapBreaks, List.length_cons]
    split
    · exact Nat.le_succ_of_le (ih _)
    · split
      · split
        · simp
        · exact Nat.le_succ_of_le (ih 0)
      · simp

theorem length_takeGap_le (cs : List Char) : (takeGap cs).rest.length ≤ cs.length := by
  have hs : (skipSpaces cs).length ≤ cs.length := (cs.dropWhile_sublist _).length_le
  simp only [takeGap]
  split
  · simp
  · next c rest h =>
    simp only [h, List.length_cons] at hs
    split
    · split
      · simp only; omega
      · exact Nat.le_trans (length_gapBreaks_le 0 rest) (Nat.le_of_succ_le hs)
    · simpa using hs

/-- The words from here on, whether the last gap ended a line, and the rest. Outside of brackets a
new line has to be indented as far as `indent`. -/
def plainFrom (flow : Bool) (indent : Int) (broken : Bool) (cs : List Char) :
    List Char × Bool × List Char :=
  match _h : takeWord flow cs with
  | ([], _) => ([], broken, cs)
  | (c :: word, behind) =>
    let gap := takeGap behind
    if gap.text.isEmpty || gap.rest.head? = some '#'
        || (!flow && gap.broken && gap.column < indent) then
      (c :: word, gap.broken, gap.rest)
    else
      match plainFrom flow indent gap.broken gap.rest with
      | ([], broken, rest) => (c :: word, broken, rest)
      | (text, broken, rest) => (c :: word ++ gap.text ++ text, broken, rest)
  termination_by cs.length
  decreasing_by
    have h₁ := length_takeWord flow cs
    have h₂ := length_takeGap_le behind
    simp only [_h, List.length_cons] at h₁
    omega

/-- A plain text within a block that is indented as far as `outer`; also tells whether it is
followed by the start of a line. -/
def readPlain (flow : Bool) (outer : Int) (cs : List Char) : String × Bool × List Char :=
  let (text, broken, rest) := plainFrom flow (outer + 1) false cs
  (String.ofList text, broken, rest)

end DeclaredTools.Yaml
