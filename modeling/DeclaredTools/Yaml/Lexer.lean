/-
  From text to tokens. Indentation opens and closes block collections. Whether a node is the key of
  a mapping shows only at the colon behind it, so the places where a key can have started are
  remembered, one on each level of brackets, and the tokens are put in later. A block of the text
  that is faulty matters as soon as a character in it is looked at; behind every token one is.
-/
import DeclaredTools.Yaml.Block
import DeclaredTools.Yaml.Plain
import DeclaredTools.Yaml.Property
import DeclaredTools.Yaml.Source

namespace DeclaredTools.Yaml

/-- A place where a key can have started. -/
structure KeyStart where
  /-- How many tokens stand before it. -/
  number : Nat
  /-- Nothing but a key can stand there. -/
  required : Bool
  index : Nat
  line : Nat
  column : Nat

structure Lexer where
  place : Cursor
  /-- What is wrong behind the characters that are left; nothing where the text ends. -/
  fault : Option Fault
  /-- The tokens so far, last first. -/
  tokens : List Token
  /-- The column of the innermost block collection, -1 outside of all, and those around it. -/
  indent : Int
  indents : List Int
  /-- A key can start at this place. -/
  keyAllowed : Bool
  /-- The key starts, those on the innermost level first. -/
  keys : List (Option KeyStart)

namespace Lexer

def start (source : Source) : Lexer :=
  ⟨⟨source.chars, 0, 0, 0⟩, source.fault, [], -1, [], true, [none]⟩

/-- Within brackets. -/
def inFlow (s : Lexer) : Bool := 1 < s.keys.length

def emit (t : Token) (s : Lexer) : Lexer := { s with tokens := t :: s.tokens }

/-- Puts a token behind the first `number` ones. -/
def insertAt (number : Nat) (t : Token) (s : Lexer) : Lexer :=
  let later := s.tokens.length - number
  { s with tokens := s.tokens.take later ++ t :: s.tokens.drop later }

def goto (rest : List Char) (s : Lexer) : Lexer := { s with place := s.place.goto rest }

/-- To the next token; a key can start on a new line outside of brackets. A byte order mark at the
very start is skipped. -/
def skipToToken (s : Lexer) : Lexer :=
  let cs :=
    match s.place.index, s.place.rest with
    | 0, '\uFEFF' :: cs => cs
    | _, cs => cs
  let (rest, broken) := skipGap false cs
  { s.goto rest with keyAllowed := s.keyAllowed || (broken && !s.inFlow) }

/-- A key that started there can still end here: on its line, within 1024 characters. -/
def isCurrent (p : Cursor) (k : KeyStart) : Bool :=
  k.line = p.line && p.index - k.index ≤ 1024

/-- The key starts that are still possible at this place. -/
def possibleKeys (s : Lexer) : List KeyStart := (s.keys.filterMap id).filter (isCurrent s.place)

/-- Forgets the key starts that are too far back. -/
def dropStale (s : Lexer) : Except Fault Lexer :=
  if (s.keys.filterMap id).any fun k => !isCurrent s.place k && k.required then .error .malformed
  else .ok { s with keys := s.keys.map (Option.filter (isCurrent s.place)) }

/-- Forgets the key start of this level. -/
def dropKey (s : Lexer) : Except Fault Lexer :=
  match s.keys with
  | some k :: keys => if k.required then .error .malformed else .ok { s with keys := none :: keys }
  | _ => .ok s

/-- Remembers this place as a key start if a key is allowed here. -/
def saveKey (s : Lexer) : Except Fault Lexer := do
  if !s.keyAllowed then return s
  let s ← s.dropKey
  let key : KeyStart := {
    number := s.tokens.length
    required := !s.inFlow && s.indent = s.place.column
    index := s.place.index
    line := s.place.line
    column := s.place.column }
  return { s with keys := some key :: s.keys.tail }

/-- Closes the block collections that are indented deeper than `column`. -/
def closeBlocks (column : Int) (s : Lexer) : Lexer :=
  if s.inFlow then s
  else
    let levels := s.indent :: s.indents
    let closing := levels.takeWhile (column < ·)
    let left := levels.drop closing.length
    { s with
      tokens := closing.map (fun _ => Token.blockEnd) ++ s.tokens
      indent := left.headD (-1)
      indents := left.tail }

/-- Opens a block collection at a column if it is indented deeper than the innermost one. -/
def deepen (column : Nat) (s : Lexer) : Option Lexer :=
  if s.indent < column then some { s with indent := column, indents := s.indent :: s.indents }
  else none

/-- Ends everything that is open outside of brackets. -/
def closeAll (s : Lexer) : Except Fault Lexer := do
  let s ← (s.closeBlocks (-1)).dropKey
  return { s with keyAllowed := false }

def openFlow (t : Token) (rest : List Char) (s : Lexer) : Except Fault Lexer := do
  let s ← s.saveKey
  return { (s.goto rest).emit t with keys := none :: s.keys, keyAllowed := true }

def closeFlow (t : Token) (rest : List Char) (s : Lexer) : Except Fault Lexer := do
  let s ← s.dropKey
  if !s.inFlow then throw .malformed
  return { (s.goto rest).emit t with keys := s.keys.tail, keyAllowed := false }

/-- Opens a block collection of this kind here, where one has to start or to go on. -/
def openBlock (t : Token) (s : Lexer) : Except Fault Lexer :=
  if s.inFlow then .ok s
  else if !s.keyAllowed then .error .malformed
  else
    match s.deepen s.place.column with
    | some deeper => .ok (deeper.emit t)
    | none => .ok s

def dash (rest : List Char) (s : Lexer) : Except Fault Lexer := do
  let s ← { ← s.openBlock .sequenceStart with keyAllowed := true }.dropKey
  return (s.goto rest).emit .dash

def explicitKey (rest : List Char) (s : Lexer) : Except Fault Lexer := do
  let s ← { ← s.openBlock .mappingStart with keyAllowed := !s.inFlow }.dropKey
  return (s.goto rest).emit .key

/-- A colon: what started at the remembered place was a key. -/
def colon (rest : List Char) (s : Lexer) : Except Fault Lexer := do
  match s.keys with
  | some k :: keys =>
    let s := { s with keys := none :: keys, keyAllowed := false }.insertAt k.number .key
    let s :=
      if s.inFlow then s
      else
        match s.deepen k.column with
        | some deeper => deeper.insertAt k.number .mappingStart
        | none => s
    return (s.goto rest).emit .value
  | _ =>
    let s ← { ← s.openBlock .mappingStart with keyAllowed := !s.inFlow }.dropKey
    return (s.goto rest).emit .value

/-- A node that can be a key, read by `read`. -/
def node (read : Except Fault (Token × List Char)) (s : Lexer) : Except Fault Lexer := do
  let s ← s.saveKey
  let (t, rest) ← read
  return { (s.goto rest).emit t with keyAllowed := false }

def plain (s : Lexer) : Except Fault Lexer := do
  let s ← s.saveKey
  let (text, broken, rest) := readPlain s.inFlow s.indent s.place.rest
  return { (s.goto rest).emit (.scalar text true) with keyAllowed := broken }

def block (folding : Bool) (cs : List Char) (s : Lexer) : Except Fault Lexer := do
  let s ← { s with keyAllowed := true }.dropKey
  let (text, rest) ← readBlock folding s.indent cs
  return (s.goto rest).emit (.scalar text false)

def quoted (double : Bool) (cs : List Char) : Except Fault (Token × List Char) := do
  let (text, rest) ← readQuoted double cs
  return (.scalar text false, rest)

def directive (cs : List Char) (s : Lexer) : Except Fault Lexer := do
  let s ← s.closeAll
  let (d, rest) ← readDirective cs
  return (s.goto rest).emit (.directive d)

def separator (t : Token) (cs : List Char) (s : Lexer) : Except Fault Lexer := do
  let s ← s.closeAll
  return (s.goto (cs.drop 3)).emit t

/-- Reads the token that starts here. -/
def token (s : Lexer) : Except Fault Lexer :=
  let flow := s.inFlow
  let lineStart := s.place.column = 0
  match s.place.rest with
  | [] => do return { (← s.closeAll).emit .done with keys := [none] }
  | c :: cs =>
    let named := fun (make : String → Token) =>
      (readName cs).map fun (name, rest) => (make name, rest)
    if c = '%' && lineStart then s.directive cs
    else if c = '-' && lineStart && atSeparator (c :: cs) then s.separator .documentStart (c :: cs)
    else if c = '.' && lineStart && atSeparator (c :: cs) then s.separator .documentEnd (c :: cs)
    else if c = '[' then s.openFlow .leftBracket cs
    else if c = '{' then s.openFlow .leftBrace cs
    else if c = ']' then s.closeFlow .rightBracket cs
    else if c = '}' then s.closeFlow .rightBrace cs
    else if c = ',' then do
      return ({ ← s.dropKey with keyAllowed := true }.goto cs).emit .comma
    else if c = '-' && atBlank cs then s.dash cs
    else if c = '?' && (flow || atBlank cs) then s.explicitKey cs
    else if c = ':' && (flow || atBlank cs) then s.colon cs
    else if c = '*' then s.node (named .alias)
    else if c = '&' then s.node (named .anchor)
    else if c = '!' then s.node ((readTag cs).map fun (name, rest) => (.tag name, rest))
    else if c = '|' && !flow then s.block false cs
    else if c = '>' && !flow then s.block true cs
    else if c = '\'' then s.node (quoted false cs)
    else if c = '"' then s.node (quoted true cs)
    else if startsPlain flow (c :: cs) then s.plain
    else .error .malformed

/-- A character is left, or the text is at its end. -/
def checkRest (s : Lexer) : Except Fault Lexer :=
  match s.place.rest, s.fault with
  | [], some f => .error f
  | _, _ => .ok s

/-- Reads the next token. -/
def step (s : Lexer) : Except Fault Lexer := do
  let s ← (← (← s.dropStale).skipToToken.checkRest).dropStale
  match (s.closeBlocks s.place.column).token with
  | .ok next => next.checkRest
  | .error .unfinished => .error (s.fault.getD .malformed)
  | .error (.unfinishedInteger digits) => .error (s.fault.getD (.longInteger digits))
  | .error f => .error f

/-- The tokens in order where reading stops at a fault; those from the first possible key start on
are still undecided and left out. -/
def cutOff (f : Fault) (s : Lexer) : List Token :=
  let decided := (s.possibleKeys.map KeyStart.number).foldl min s.tokens.length
  s.tokens.reverse.take decided ++ [.failed f]

/-- Reads token after token. -/
def run : Nat → Lexer → List Token
  | 0, s => s.cutOff .malformed
  | n + 1, s =>
    match s.step with
    | .error f => s.cutOff f
    | .ok next => if next.tokens.head? = some .done then next.tokens.reverse else run n next

end Lexer

/-- The tokens of a text; the last one is its end or a fault. -/
def tokens (source : Source) : List Token :=
  Lexer.run (source.chars.length + 1) (Lexer.start source)

end DeclaredTools.Yaml
