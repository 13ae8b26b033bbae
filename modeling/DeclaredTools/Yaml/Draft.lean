/-
  Drafts: what the nodes of a document stand for, as far as it is known. Texts get their values at
  once, collections are opened empty and filled later, round by round, so that of several faults
  the first on the highest level counts. A mapping takes in the entries of the mappings that it
  merges before it is filled; that changes its node for good.
-/
import DeclaredTools.Yaml.Atom
import DeclaredTools.Yaml.Node

namespace DeclaredTools.Yaml

/-- What a node stands for. Collections refer to the nodes of their parts. -/
inductive Part where
  | atom (v : Value)
  /-- The one object that every `.nan` stands for. -/
  | nan
  | list (items : List NodeId)
  | pairs (entries : List (NodeId × NodeId))
  | set (entries : List (NodeId × NodeId))
  | map (entries : List (NodeId × NodeId))

namespace Part

/-- Collections can be no keys. -/
def isCollection : Part → Bool
  | .atom _ => false
  | .nan => false
  | _ => true

/-- The two are one key of a map. -/
def sameKey : Part → Part → Bool
  | .atom a, .atom b => Value.same a b
  | .nan, .nan => true
  | _, _ => false

/-- The empty collection of this kind, if it is one. -/
def opened? : Tag → Option Part
  | .sequence => some (.list [])
  | .mapping => some (.map [])
  | .set => some (.set [])
  | .orderedMap => some (.pairs [])
  | .pairs => some (.pairs [])
  | _ => none

end Part

structure Draft where
  nodes : Array Node
  /-- What is known of each node. -/
  parts : Array (Option Part)
  /-- The collections opened in this round, last first. -/
  opened : List NodeId

namespace Draft

abbrev Builder := StateT Draft (Except Fault)

def nodeOf (id : NodeId) : Builder Node := return (← get).nodes[id]?.getD default

def setNode (id : NodeId) (node : Node) : Builder Unit :=
  modify fun d => { d with nodes := d.nodes.modify id fun _ => node }

def setPart (id : NodeId) (part : Part) : Builder Unit :=
  modify fun d => { d with parts := d.parts.modify id fun _ => some part }

/-- The text that a node stands for: its own, or the one under the default key of a mapping. The
fuel is the number of nodes, so that what runs out of it goes round in a circle. -/
def textOf : Nat → NodeId → Builder String
  | 0, _ => throw .endless
  | n + 1, id => do
    match (← nodeOf id).content with
    | .scalar text => return text
    | .sequence _ => throw .malformed
    | .mapping entries =>
      let nodes := (← get).nodes
      match entries.find? fun (key, _) => (nodes[key]?.getD default).tag = .default with
      | some (_, value) => textOf n value
      | none => throw .malformed

/-- What a text stands for under the tag of its node. -/
def ofText (node : Node) (text : String) : Except Fault Part :=
  match node.tag, node.content with
  | .null, _ => .ok (.atom .null)
  | .timestamp, .mapping _ => .error .timestampKind
  | .float, _ => if Atom.isNanWord text then .ok .nan else (Atom.float text).map .atom
  | tag, _ => (Atom.ofText tag text).map .atom

/-- Finds out what a node stands for, and notes it; collections are opened only. -/
def construct (id : NodeId) : Builder Part := do
  match (← get).parts[id]?.join with
  | some part => return part
  | none =>
    let node ← nodeOf id
    let part ←
      match Part.opened? node.tag with
      | some part =>
        modify fun d => { d with opened := id :: d.opened }
        pure part
      | none => ofText node (← textOf ((← get).nodes.size + 1) id)
    setPart id part
    return part

/-! ## Merging -/

/-- The entries of a mapping. -/
def entriesOf (id : NodeId) : Builder (List (NodeId × NodeId)) := do
  match (← nodeOf id).content with
  | .mapping entries => return entries
  | _ => throw .malformed

/-- Prepares the entries of the mapping `id`. Default keys become texts; a merge key is taken out,
and `flatten` prepares the mappings under it, the entries of which are given back. -/
def takeMerges (flatten : NodeId → Builder Unit) (id : NodeId)
    (kept merged : List (NodeId × NodeId)) :
    List (NodeId × NodeId) → Builder (List (NodeId × NodeId) × List (NodeId × NodeId))
  | [] => return (kept, merged)
  | (key, value) :: entries => do
    let node ← nodeOf key
    match node.tag with
    | .merge =>
      setNode id { ← nodeOf id with content := .mapping (kept ++ entries) }
      let source ← nodeOf value
      let more ←
        match source.content with
        | .mapping _ => flattened value
        | .sequence items =>
          let lists ← items.mapM flattened
          pure lists.reverse.flatten
        | .scalar _ => throw .malformed
      takeMerges flatten id kept (merged ++ more) entries
    | .default =>
      setNode key { node with tag := .text }
      takeMerges flatten id (kept ++ [(key, value)]) merged entries
    | _ => takeMerges flatten id (kept ++ [(key, value)]) merged entries
where
  /-- The entries of a prepared mapping. -/
  flattened (source : NodeId) : Builder (List (NodeId × NodeId)) := do
    let _ ← entriesOf source
    flatten source
    entriesOf source

/-- Puts the entries of merged mappings in front of a mapping's own. The fuel is the number of
entries: a mapping loses one to each mapping that is merged, which may be itself. -/
def flatten : Nat → NodeId → Builder Unit
  | 0, _ => throw .malformed
  | n + 1, id => do
    let (kept, merged) ← takeMerges (flatten n) id [] [] (← entriesOf id)
    setNode id { ← nodeOf id with content := .mapping (merged ++ kept) }

/-- How many entries the mappings have together. -/
def entryCount (nodes : Array Node) : Nat :=
  nodes.foldl (fun n node =>
    match node.content with
    | .mapping entries => n + entries.length
    | _ => n) 0

/-! ## Filling -/

/-- Puts an entry into a map; an equal key that is there keeps its place and its form. -/
def insertEntry (parts : Array (Option Part)) (key value : NodeId) :
    List (NodeId × NodeId) → List (NodeId × NodeId)
  | [] => [(key, value)]
  | (k, v) :: entries =>
    let isSame :=
      match parts[k]?.join, parts[key]?.join with
      | some a, some b => Part.sameKey a b
      | _, _ => false
    if k = key || isSame then (k, value) :: entries
    else (k, v) :: insertEntry parts key value entries

/-- The entries of a map, one after the other. -/
def mapEntries (id : NodeId) : Builder (List (NodeId × NodeId)) := do
  flatten (entryCount (← get).nodes + 1) id
  (← entriesOf id).foldlM (fun entries (key, value) => do
    if (← construct key).isCollection then throw .malformed
    let _ ← construct value
    return insertEntry (← get).parts key value entries) []

/-- The entry of a mapping that has one only. -/
def onlyEntry (id : NodeId) : Builder (NodeId × NodeId) := do
  match ← entriesOf id with
  | [(key, value)] =>
    let _ ← construct key
    let _ ← construct value
    return (key, value)
  | _ => throw .malformed

/-- The items of a sequence. -/
def itemsOf (id : NodeId) : Builder (List NodeId) := do
  match (← nodeOf id).content with
  | .sequence items => return items
  | _ => throw .malformed

/-- Fills an opened collection. -/
def fill (id : NodeId) : Builder Unit := do
  match (← get).parts[id]?.join with
  | some (.list _) =>
    let items ← itemsOf id
    for item in items do
      let _ ← construct item
    setPart id (.list items)
  | some (.pairs _) => setPart id (.pairs (← (← itemsOf id).mapM onlyEntry))
  | some (.set _) => setPart id (.set (← mapEntries id))
  | some (.map _) => setPart id (.map (← mapEntries id))
  | _ => return

/-- Fills the collections that are open until none is left. Every round opens new nodes, so their
number is fuel enough. -/
def fillAll : Nat → Builder Unit
  | 0 => return
  | n + 1 => do
    let opened := (← get).opened.reverse
    if !opened.isEmpty then
      modify fun d => { d with opened := [] }
      opened.forM fill
      fillAll n

/-! ## Values -/

/-- The value of a node, of which everything is known. The fuel is the number of nodes, so that what
runs out of it is part of itself. -/
def valueOf (order : SetOrder) (parts : Array (Option Part)) : Nat → NodeId → Except Fault Value
  | 0, _ => .error .selfContaining
  | n + 1, id => do
    let entryValues := fun (entries : List (NodeId × NodeId)) =>
      entries.mapM fun (key, value) => do
        return (← valueOf order parts n key, ← valueOf order parts n value)
    match parts[id]?.join with
    | some (.atom v) => return v
    | some .nan => return .float .nan
    | some (.list items) => return .list (← items.mapM (valueOf order parts n))
    | some (.pairs entries) =>
      return .list ((← entryValues entries).map fun (k, v) => .tuple [k, v])
    | some (.set entries) =>
      return Value.setOf order (← entries.mapM fun (key, _) => valueOf order parts n key)
    | some (.map entries) => return .map (← entryValues entries)
    | none => throw .malformed

/-- Finds out what every node stands for. -/
def complete (root : NodeId) : Builder Unit := do
  let _ ← construct root
  fillAll ((← get).nodes.size + 1)

/-- The value of a document. -/
def value? (order : SetOrder) (g : Graph) : Except Fault Value := do
  let size := g.nodes.size
  let ((), draft) ← (complete g.root).run ⟨g.nodes, Array.replicate size none, []⟩
  valueOf order draft.parts (size + 1) g.root

end Draft

end DeclaredTools.Yaml
