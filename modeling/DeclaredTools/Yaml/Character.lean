/-
  The characters that matter to the grammar, and the place where reading stands.
-/
namespace DeclaredTools.Yaml

/-- Characters that a document may hold. -/
def isAllowed (c : Char) : Bool :=
  let n := c.toNat
  n == 0x09 || n == 0x0a || n == 0x0d || (0x20 ≤ n && n ≤ 0x7e) || n == 0x85
    || (0xa0 ≤ n && n ≤ 0xfffd) || 0x10000 ≤ n

def isBreak (c : Char) : Bool := c = '\n' || c = '\u0085' || c = '\u2028' || c = '\u2029'

def isSpace (c : Char) : Bool := c = ' ' || c = '\t'

def isBlank (c : Char) : Bool := isSpace c || isBreak c

/-- Letters, digits, hyphen and underscore. -/
def isWord (c : Char) : Bool := c.isAlphanum || c = '-' || c = '_'

/-- What a line break stands for in a text; the ordinary ones become line feeds. -/
def breakChar (c : Char) : Char := if c = '\n' || c = '\u0085' then '\n' else c

/-- A blank or nothing comes first. -/
def atBlank : List Char → Bool
  | [] => true
  | c :: _ => isBlank c

/-- A line break or nothing comes first. -/
def atLineEnd : List Char → Bool
  | [] => true
  | c :: _ => isBreak c

/-- A space, a line break or nothing comes first. -/
def atGap : List Char → Bool
  | [] => true
  | c :: _ => c = ' ' || isBreak c

/-- A line starts here that separates documents. -/
def atSeparator : List Char → Bool
  | '-' :: '-' :: '-' :: cs => atBlank cs
  | '.' :: '.' :: '.' :: cs => atBlank cs
  | _ => false

def skipSpaces (cs : List Char) : List Char := cs.dropWhile (· = ' ')

/-- Without the spaces, comments and line breaks that come first; also tells whether a line was
ended. What comes first may belong to a comment. -/
def skipGap (comment : Bool) : List Char → List Char × Bool
  | [] => ([], false)
  | c :: cs =>
    if isBreak c then ((skipGap false cs).1, true)
    else if comment || c = ' ' then skipGap comment cs
    else if c = '#' then skipGap true cs
    else (c :: cs, false)

/-- Without the comment that may come first. -/
def skipComment : List Char → List Char
  | '#' :: cs => cs.dropWhile (!isBreak ·)
  | cs => cs

/-- Without the line break that may come first. -/
def skipBreak : List Char → List Char
  | c :: cs => if isBreak c then cs else c :: cs
  | [] => []

theorem length_skipBreak_le (cs : List Char) : (skipBreak cs).length ≤ cs.length := by
  cases cs with
  | nil => simp [skipBreak]
  | cons c cs => simp only [skipBreak]; split <;> simp

/-- Whether two texts are equal. That they are one and the same shows at once. -/
def sameText : (a b : List Char) → Decidable (a = b)
  | [], [] => .isTrue rfl
  | [], _ :: _ => .isFalse nofun
  | _ :: _, [] => .isFalse nofun
  | a :: as, b :: bs =>
    withPtrEqDecEq (a :: as) (b :: bs) fun _ =>
      if h : a = b then
        match sameText as bs with
        | .isTrue hs => .isTrue (by rw [h, hs])
        | .isFalse hs => .isFalse fun e => hs (List.cons.inj e).2
      else .isFalse fun e => h (List.cons.inj e).1

/-- What is left to read, and where it starts. -/
structure Cursor where
  rest : List Char
  index : Nat
  line : Nat
  column : Nat

namespace Cursor

/-- One character further; a byte order mark takes no column. -/
def next (p : Cursor) : Cursor :=
  match p.rest with
  | [] => p
  | c :: cs =>
    if isBreak c then ⟨cs, p.index + 1, p.line + 1, 0⟩
    else ⟨cs, p.index + 1, p.line, if c = '\uFEFF' then p.column else p.column + 1⟩

/-- Steps over `cs`, the text from here on, as far as to where `rest` is left. -/
def walk (rest : List Char) : List Char → Cursor → Cursor
  | [], p => p
  | c :: cs, p =>
    match sameText (c :: cs) rest with
    | .isTrue _ => p
    | .isFalse _ => walk rest cs p.next

/-- Forward to where `rest` is left. -/
def goto (p : Cursor) (rest : List Char) : Cursor := walk rest p.rest p

end Cursor

end DeclaredTools.Yaml
