/-
  Quoted texts: between apostrophes, where only the apostrophe is doubled, and between quotation
  marks, with escapes. Line breaks are folded: one becomes a space, of several the first is lost.
-/
import DeclaredTools.Json.Reader
import DeclaredTools.Yaml.Character
import DeclaredTools.Yaml.Fault

namespace DeclaredTools.Yaml

/-- The line breaks ahead, with the spaces around them; no line may separate documents. -/
def quotedBreaks (lineStart : Bool) : List Char → Except Fault (List Char × List Char)
  | [] => .ok ([], [])
  | c :: cs =>
    if lineStart && atSeparator (c :: cs) then .error .malformed
    else if isSpace c then quotedBreaks false cs
    else if isBreak c then
      (quotedBreaks true cs).map fun (breaks, rest) => (breakChar c :: breaks, rest)
    else .ok ([], c :: cs)

/-- What a line break and the breaks behind it stand for. -/
def folded (first : Char) (more : List Char) : List Char :=
  if breakChar first ≠ '\n' then breakChar first :: more
  else if more.isEmpty then [' ']
  else more

/-- The blanks ahead in a quoted text: as they stand within a line, folded at its end. -/
def quotedBlanks (cs : List Char) : Except Fault (List Char × List Char) :=
  match cs.dropWhile isSpace with
  | [] => .error .unfinished
  | c :: rest =>
    if isBreak c then (quotedBreaks true rest).map fun (breaks, rest) => (folded c breaks, rest)
    else .ok (cs.takeWhile isSpace, c :: rest)

/-- Characters that a backslash and a letter or sign stand for. -/
def namedEscapes : List (Char × Char) := [
  ('0', '\x00'), ('a', '\x07'), ('b', '\x08'), ('t', '\t'), ('\t', '\t'), ('n', '\n'),
  ('v', '\x0b'), ('f', '\x0c'), ('r', '\r'), ('e', '\x1b'), (' ', ' '), ('"', '"'),
  ('\\', '\\'), ('/', '/'), ('N', '\u0085'), ('_', '\u00a0'), ('L', '\u2028'), ('P', '\u2029')]

/-- How many hexadecimal digits follow. -/
def escapeWidth? (c : Char) : Option Nat :=
  if c = 'x' then some 2 else if c = 'u' then some 4 else if c = 'U' then some 8 else none

/-- The character of a code point; surrogates have none. -/
def charOf (n : Nat) : Except Fault Char :=
  if 0x110000 ≤ n then .error (.codePoint n)
  else if n.isValidChar then .ok (Char.ofNat n)
  else .error (.surrogate n)

/-- The escape after a backslash, with the characters it stands for. -/
def readEscape : List Char → Except Fault (List Char × List Char)
  | [] => .error .unfinished
  | c :: cs =>
    match namedEscapes.lookup c with
    | some e => .ok ([e], cs)
    | none =>
      match escapeWidth? c with
      | some width =>
        match (cs.take width).mapM Json.hexDigit? with
        | some digits =>
          if digits.length = width then
            (charOf (digits.foldl (fun n d => n * 16 + d) 0)).map fun e => ([e], cs.drop width)
          else .error .unfinished
        | none => .error .malformed
      | none => if isBreak c then quotedBreaks true cs else .error .malformed

/-- One step in a quoted text that has not ended here: the characters read, and the rest. -/
def quotedStep (double : Bool) (c : Char) (cs : List Char) :
    Except Fault (List Char × List Char) :=
  if isBlank c then quotedBlanks (c :: cs)
  else if double && c = '\\' then readEscape cs
  else .ok ([c], cs)

/-- The text up to its closing mark, and what follows the mark. The fuel is the number of
characters. -/
def quotedFrom (double : Bool) : Nat → List Char → Except Fault (List Char × List Char)
  | 0, _ => .error .unfinished
  | _, [] => .error .unfinished
  | n + 1, c :: cs =>
    if double then
      if c = '"' then .ok ([], cs) else more n c cs
    else
      match c, cs with
      | '\'', '\'' :: cs => do
        let (text, rest) ← quotedFrom double n cs
        return ('\'' :: text, rest)
      | '\'', cs => .ok ([], cs)
      | c, cs => more n c cs
where
  more (n : Nat) (c : Char) (cs : List Char) : Except Fault (List Char × List Char) := do
    let (read, rest) ← quotedStep double c cs
    let (text, rest) ← quotedFrom double n rest
    return (read ++ text, rest)

/-- A quoted text behind its opening mark. -/
def readQuoted (double : Bool) (cs : List Char) : Except Fault (String × List Char) := do
  let (text, rest) ← quotedFrom double cs.length cs
  return (String.ofList text, rest)

end DeclaredTools.Yaml
