/-
  What stands before a node or before a document: the names of anchors and aliases, tags, and the
  directives that give the language's version and the meaning of tag handles.
-/
import DeclaredTools.Json.Reader
import DeclaredTools.Text.Utf8
import DeclaredTools.Yaml.Character
import DeclaredTools.Yaml.Token

namespace DeclaredTools.Yaml

/-- The name of an anchor or alias, behind its mark. -/
def readName (cs : List Char) : Except Fault (String × List Char) :=
  let name := cs.takeWhile isWord
  let rest := cs.dropWhile isWord
  let ends := atBlank rest || (rest.head?.any fun c => "?:,]\x7d%@\x60".toList.contains c)
  if name.isEmpty || !ends then .error (.ofRest rest) else .ok (String.ofList name, rest)

/-- Marks that a tag may hold beside letters and digits. -/
def tagMarks : List Char := "-;/?:@&=+$,_.!~*\x27()[]".toList

/-- The octets written with percent signs from here on, at most `n` of them. -/
def takeOctets : Nat → List Char → Except Fault (List UInt8 × List Char)
  | 0, cs => .ok ([], cs)
  | n + 1, '%' :: a :: b :: cs =>
    match Json.hexDigit? a, Json.hexDigit? b with
    | some x, some y => do
      let (octets, rest) ← takeOctets n cs
      return (UInt8.ofNat (x * 16 + y) :: octets, rest)
    | _, _ => .error .malformed
  | _, '%' :: cs => .error (.ofRest (cs.dropWhile fun c => (Json.hexDigit? c).isSome))
  | _, cs => .ok ([], cs)

/-- The text of a tag from here on; at most `n` characters and escapes. -/
def takeTagText : Nat → List Char → Except Fault (List Char × List Char)
  | 0, cs => .ok ([], cs)
  | _, [] => .ok ([], [])
  | n + 1, c :: cs =>
    if c = '%' then do
      let (octets, rest) ← takeOctets (n + 1) (c :: cs)
      match Text.Utf8.decode octets with
      | .ok read =>
        let (text, rest) ← takeTagText n rest
        return (read.toList ++ text, rest)
      | .error _ => .error (.ofRest rest)
    else if c.isAlphanum || tagMarks.contains c then do
      let (text, rest) ← takeTagText n cs
      return (c :: text, rest)
    else .ok ([], c :: cs)

/-- The text of a tag, which is not empty. -/
def readTagText (cs : List Char) : Except Fault (String × List Char) := do
  let (text, rest) ← takeTagText cs.length cs
  if rest.length = cs.length then throw (.ofRest rest)
  return (String.ofList text, rest)

/-- A tag handle: one exclamation mark, or a word between two. -/
def readHandle : List Char → Except Fault (String × List Char)
  | '!' :: ' ' :: cs => .ok ("!", ' ' :: cs)
  | '!' :: cs =>
    match cs.dropWhile isWord with
    | '!' :: rest => .ok (String.ofList ('!' :: cs.takeWhile isWord ++ ['!']), rest)
    | rest => .error (.ofRest rest)
  | cs => .error (.ofRest cs)

/-- The tag ahead has a handle of its own: a second exclamation mark comes before the next gap. -/
def hasHandle (cs : List Char) : Bool :=
  (cs.takeWhile fun c => !(c = ' ' || isBreak c)).contains '!'

/-- A tag behind its exclamation mark. -/
def readTagName : List Char → Except Fault (TagName × List Char)
  | '<' :: cs => do
    let (text, rest) ← readTagText cs
    match rest with
    | '>' :: rest => return (⟨none, text⟩, rest)
    | rest => throw (.ofRest rest)
  | cs =>
    if atBlank cs then .ok (⟨none, "!"⟩, cs)
    else do
      let (handle, rest) ← if hasHandle cs then readHandle ('!' :: cs) else pure ("!", cs)
      let (text, rest) ← readTagText rest
      return (⟨some handle, text⟩, rest)

/-- A tag behind its exclamation mark, followed by a gap. -/
def readTag (cs : List Char) : Except Fault (TagName × List Char) := do
  let (name, rest) ← readTagName cs
  if atGap rest then return (name, rest) else throw .malformed

/-- A number in decimal. -/
def readNumber (cs : List Char) : Except Fault (Nat × List Char) :=
  let digits := cs.takeWhile Char.isDigit
  let rest := cs.dropWhile Char.isDigit
  if digits.isEmpty then .error (.ofRest cs)
  else if Text.digitLimit < digits.length then
    .error (if rest.isEmpty then .unfinishedInteger digits.length else .longInteger digits.length)
  else .ok (digits.foldl (fun n c => n * 10 + (c.toNat - 0x30)) 0, rest)

def readVersion (cs : List Char) : Except Fault (Directive × List Char) := do
  let (major, rest) ← readNumber (skipSpaces cs)
  match rest with
  | '.' :: rest =>
    let (minor, rest) ← readNumber rest
    if atGap rest then return (.version major minor, rest) else throw .malformed
  | rest => throw (.ofRest rest)

def readTagDirective (cs : List Char) : Except Fault (Directive × List Char) := do
  let (handle, rest) ← readHandle (skipSpaces cs)
  if rest.head? ≠ some ' ' then throw (.ofRest rest)
  let (expansion, rest) ← readTagText (skipSpaces rest)
  if atGap rest then return (.tag handle expansion, rest) else throw .malformed

/-- A directive behind its percent sign, with its line. -/
def readDirective (cs : List Char) : Except Fault (Directive × List Char) := do
  let name := cs.takeWhile isWord
  let rest := cs.dropWhile isWord
  if name.isEmpty || !atGap rest then throw (.ofRest rest)
  let (directive, rest) ←
    match String.ofList name with
    | "YAML" => readVersion rest
    | "TAG" => readTagDirective rest
    | _ => pure (.unknown, rest.dropWhile (!isBreak ·))
  let rest := skipComment (skipSpaces rest)
  if atLineEnd rest then return (directive, skipBreak rest) else throw .malformed

end DeclaredTools.Yaml
