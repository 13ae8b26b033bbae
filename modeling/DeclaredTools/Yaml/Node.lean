/-
  Nodes: a document as a graph of tagged texts, sequences and mappings. Nodes are known by their
  numbers, so that an alias leads to the very node that it stands for.
-/
import DeclaredTools.OrderedMap
import DeclaredTools.Yaml.Lexer
import DeclaredTools.Yaml.Tag

namespace DeclaredTools.Yaml

/-- The number of a node. -/
abbrev NodeId := Nat

inductive Content where
  | scalar (text : String)
  | sequence (items : List NodeId)
  | mapping (entries : List (NodeId × NodeId))

structure Node where
  tag : Tag
  content : Content

instance : Inhabited Node := ⟨⟨.null, .scalar ""⟩⟩

/-- The nodes of a document, and the one that all others belong to. -/
structure Graph where
  nodes : Array Node
  root : NodeId

namespace Graph

/-- What reading knows: the tokens ahead, the meaning of tag handles, the nodes so far, and those
that have an anchor. -/
structure Reading where
  tokens : List Token
  handles : OrderedMap String
  nodes : Array Node
  anchors : OrderedMap NodeId

abbrev Reader := StateT Reading (Except Fault)

/-- The next token. -/
def peek : Reader Token := do
  match (← get).tokens with
  | [] => throw .malformed
  | .failed f :: _ => throw f
  | t :: _ => return t

def skip : Reader Unit := modify fun r => { r with tokens := r.tokens.tail }

/-- Skips the next token if it is this one. -/
def accept (t : Token) : Reader Bool := do
  if (← peek) = t then
    skip
    return true
  else return false

def expect (t : Token) : Reader Unit := do
  if !(← accept t) then throw .malformed

/-- The handles that every document has, after those it declares. -/
def withDefaults (handles : OrderedMap String) : OrderedMap String :=
  let add := fun (handles : OrderedMap String) (name expansion : String) =>
    if (handles.get? name).isSome then handles else handles.insert name expansion
  add (add handles "!" "!") "!!" Tag.space

/-- The name of a tag, with its handle expanded. -/
def fullName (tag : TagName) : Reader String := do
  match tag.handle with
  | none => return tag.suffix
  | some handle =>
    match (← get).handles.get? handle with
    | some expansion => return expansion ++ tag.suffix
    | none => throw .malformed

structure Properties where
  anchor : Option String
  /-- The name of the tag, fully written. -/
  tag : Option String

def Properties.none : Properties := ⟨Option.none, Option.none⟩

def takeAnchor : Reader (Option String) := do
  match ← peek with
  | .anchor name =>
    skip
    return some name
  | _ => return none

def takeTag : Reader (Option TagName) := do
  match ← peek with
  | .tag name =>
    skip
    return some name
  | _ => return none

/-- An anchor and a tag in either order. -/
def properties : Reader Properties := do
  let first ← takeAnchor
  let tag ← takeTag
  let anchor ← if first.isNone && tag.isSome then takeAnchor else pure first
  return ⟨anchor, ← tag.mapM fullName⟩

/-- No tag, or one that leaves the choice open. -/
def Properties.isOpen (p : Properties) : Bool := p.tag = Option.none || p.tag = some "!"

/-- The tag of a node of which nothing else shows the kind. -/
def Properties.tagOr (p : Properties) (usual : Tag) : Tag :=
  if p.isOpen then usual else ((p.tag.map Tag.ofName).getD usual)

def Properties.textTag (p : Properties) (text : String) (plain : Bool) : Tag :=
  if p.isOpen && (plain || p.tag.isSome) then Tag.ofForm text else p.tagOr .text

/-- Adds a node; its anchor must be new. -/
def begin (p : Properties) (tag : Tag) (content : Content) : Reader NodeId := do
  let r ← get
  let id := r.nodes.size
  let anchors ←
    match p.anchor with
    | none => pure r.anchors
    | some name =>
      if (r.anchors.get? name).isSome then throw .malformed
      pure (r.anchors.insert name id)
  set { r with nodes := r.nodes.push ⟨tag, content⟩, anchors := anchors }
  return id

/-- Gives a node its content. -/
def fill (id : NodeId) (content : Content) : Reader NodeId := do
  modify fun r => { r with nodes := r.nodes.modify id fun node => { node with content := content } }
  return id

def scalar (p : Properties) (text : String) (plain : Bool) : Reader NodeId :=
  begin p (p.textTag text plain) (.scalar text)

/-- A sequence, which can be referred to from within. -/
def sequence (p : Properties) (items : Reader (List NodeId)) : Reader NodeId := do
  let id ← begin p (p.tagOr .sequence) (.sequence [])
  fill id (.sequence (← items))

/-- A mapping, which can be referred to from within. -/
def mapping (p : Properties) (entries : Reader (List (NodeId × NodeId))) : Reader NodeId := do
  let id ← begin p (p.tagOr .mapping) (.mapping [])
  fill id (.mapping (← entries))

/-- The node of a place where nothing is written. -/
def empty : Reader NodeId := begin .none .null (.scalar "")

/-- A node, or the empty one if one of these tokens comes next. -/
def orEmpty (ends : List Token) (read : Reader NodeId) : Reader NodeId := do
  if ends.contains (← peek) then empty else read

/-- Where a node stands: within brackets, in a block, or in a block mapping, where a sequence need
not be indented. -/
inductive Position where
  | flow
  | block
  | member
  deriving DecidableEq

mutual

def read : Nat → Position → Reader NodeId
  | 0, _ => throw .malformed
  | n + 1, position => do
    match ← peek with
    | .alias name =>
      skip
      match (← get).anchors.get? name with
      | some id => return id
      | none => throw .malformed
    | _ =>
      let p ← properties
      match ← peek with
      | .scalar text plain =>
        skip
        scalar p text plain
      | .leftBracket =>
        skip
        sequence p (flowItems n true)
      | .leftBrace =>
        skip
        mapping p (flowEntries n true)
      | t =>
        if t = .dash && position = .member then sequence p (looseItems n)
        else if t = .sequenceStart && position ≠ .flow then
          skip
          sequence p (blockItems n)
        else if t = .mappingStart && position ≠ .flow then
          skip
          mapping p (blockEntries n)
        else if p.anchor.isSome || p.tag.isSome then scalar p "" true
        else throw .malformed

/-- The items of a block sequence, with its end. -/
def blockItems : Nat → Reader (List NodeId)
  | 0 => throw .malformed
  | n + 1 => do
    if ← accept .dash then
      let item ← orEmpty [.dash, .blockEnd] (read n .block)
      return item :: (← blockItems n)
    else
      expect .blockEnd
      return []

/-- The items of a sequence that is not indented. -/
def looseItems : Nat → Reader (List NodeId)
  | 0 => throw .malformed
  | n + 1 => do
    if ← accept .dash then
      let item ← orEmpty [.dash, .key, .value, .blockEnd] (read n .block)
      return item :: (← looseItems n)
    else return []

/-- The entries of a block mapping, with its end. -/
def blockEntries : Nat → Reader (List (NodeId × NodeId))
  | 0 => throw .malformed
  | n + 1 => do
    if ← accept .key then
      let key ← orEmpty [.key, .value, .blockEnd] (read n .member)
      let value ← blockValue n
      return (key, value) :: (← blockEntries n)
    else
      expect .blockEnd
      return []

def blockValue : Nat → Reader NodeId
  | 0 => throw .malformed
  | n + 1 => do
    if ← accept .value then orEmpty [.key, .value, .blockEnd] (read n .member) else empty

/-- The items of a sequence in brackets, with the closing one. -/
def flowItems : Nat → Bool → Reader (List NodeId)
  | 0, _ => throw .malformed
  | n + 1, first => do
    if ← accept .rightBracket then return []
    if !first then expect .comma
    match ← peek with
    | .rightBracket =>
      skip
      return []
    | .key =>
      skip
      let item ← mapping .none do
        let key ← orEmpty [.value, .comma, .rightBracket] (read n .flow)
        return [(key, ← flowValue n .rightBracket)]
      return item :: (← flowItems n false)
    | _ =>
      let item ← read n .flow
      return item :: (← flowItems n false)

/-- The value of an entry within brackets that end with this token. -/
def flowValue : Nat → Token → Reader NodeId
  | 0, _ => throw .malformed
  | n + 1, close => do
    if ← accept .value then orEmpty [.comma, close] (read n .flow) else empty

/-- The entries of a mapping in braces, with the closing one. -/
def flowEntries : Nat → Bool → Reader (List (NodeId × NodeId))
  | 0, _ => throw .malformed
  | n + 1, first => do
    if ← accept .rightBrace then return []
    if !first then expect .comma
    match ← peek with
    | .rightBrace =>
      skip
      return []
    | .key =>
      skip
      let key ← orEmpty [.value, .comma, .rightBrace] (read n .flow)
      let value ← flowValue n .rightBrace
      return (key, value) :: (← flowEntries n false)
    | _ =>
      let key ← read n .flow
      let value ← empty
      return (key, value) :: (← flowEntries n false)

end

/-! ## Documents -/

/-- Reads directives; each may be given once, and the version has to be 1. -/
def directives : Nat → Option (Nat × Nat) → OrderedMap String → Reader (OrderedMap String)
  | 0, _, _ => throw .malformed
  | n + 1, version, handles => do
    match ← peek with
    | .directive d =>
      skip
      match d with
      | .version major minor =>
        if version.isSome || major ≠ 1 then throw .malformed
        directives n (some (major, minor)) handles
      | .tag handle expansion =>
        if (handles.get? handle).isSome then throw .malformed
        directives n version (handles.insert handle expansion)
      | .unknown => directives n version handles
    | _ => return handles

def skipDocumentEnds : Nat → Reader Unit
  | 0 => return
  | n + 1 => do
    if ← accept .documentEnd then skipDocumentEnds n

/-- A document that says where it starts. -/
def explicitDocument (fuel : Nat) : Reader NodeId := do
  let handles ← directives fuel none []
  expect .documentStart
  modify fun r => { r with handles := withDefaults handles }
  match ← peek with
  | .directive _ => empty
  | .documentStart => empty
  | .documentEnd => empty
  | .done => empty
  | _ => read fuel .block

/-- The end of a document and of the text. Nothing may follow; directives that do are still read,
and the token behind them is looked at. -/
def theEnd (fuel : Nat) : Reader Unit := do
  skipDocumentEnds fuel
  if (← peek) ≠ .done then
    let _ ← directives fuel none []
    let _ ← peek
    throw .malformed

/-- The only document of a text; there may be none. -/
def document (fuel : Nat) : Reader (Option Graph) := do
  let root ←
    match ← peek with
    | .done => return none
    | .directive _ => explicitDocument fuel
    | .documentStart => explicitDocument fuel
    | _ =>
      modify fun r => { r with handles := withDefaults [] }
      read fuel .block
  theEnd fuel
  return some ⟨(← get).nodes, root⟩

/-- The graph of a text's tokens. -/
def ofTokens? (tokens : List Token) : Except Fault (Option Graph) :=
  (document (4 * tokens.length + 4)).run' ⟨tokens, [], #[], []⟩

end Graph

end DeclaredTools.Yaml
