import Unbundle.Settings.Scalar
import Unbundle.Yaml.Document

/-!
# Settings documents

The value of a YAML document. Collections are made empty where they are met and filled later, in the
order in which they were met, so that a collection may stand in several places and even inside
itself. They keep the numbers of their nodes.

In a mapping the entries under a merge mark come before the mapping's own, which win over them; of
several mappings that are merged at once, the first wins. A repeated key keeps its first place and
its last value.
-/

namespace Unbundle.Settings

open Yaml (Failure NodeId Nodes coreTag)

/-- What stands at a place in a document: a scalar, or a collection by number. -/
inductive Item
  | scalar (value : Value)
  | collection (id : NodeId)

/-- What is in a collection. -/
inductive Collection
  | list (items : List Item)
  | pairs (pairs : List (Item × Item))
  | map (entries : List (Value × Item))
  | set (keys : List Value)

/-- A document: what is in its collections, by number, and the item that holds all others. -/
structure Document where
  collections : Array Collection
  root : Item

/-! ## Kinds of nodes -/

/-- The kinds of collections that a tag can ask for. -/
inductive CollectionKind
  | list
  | pairs
  | map
  | set
  deriving DecidableEq, Repr

/-- The kind of collection that a tag asks for, if it does. -/
def CollectionKind.ofTag? (tag : String) : Option CollectionKind := [
  (coreTag "seq", list), (coreTag "omap", pairs), (coreTag "pairs", pairs), (coreTag "map", map),
  (coreTag "set", set)].lookup tag

/-- A collection of a kind with nothing in it. -/
def Collection.empty : CollectionKind → Collection
  | .list => .list []
  | .pairs => .pairs []
  | .map => .map []
  | .set => .set []

/-- The tag of the merge mark. -/
def mergeTag : String := coreTag "merge"

/-- The tag of the default mark. -/
def defaultTag : String := coreTag "value"

/-! ## Making -/

/-- How far a document has been made. -/
structure Making where
  /-- The nodes, with merged entries in place in the mappings that have been filled. -/
  nodes : Nodes
  /-- What has been made of each node. -/
  made : Array (Option Item)
  collections : Array Collection
  /-- The collections that were met, in order. -/
  met : Array NodeId := #[]

/-- A step of making a document. -/
abbrev Make := StateT Making (Except Failure)

/-- The text of a scalar, or of what stands under the default mark in a mapping that stands for one.
A mapping that leads to itself in this way has none. -/
def scalarText (nodes : Nodes) : Nat → NodeId → Except Failure Letters
  | 0, _ => .error (.error .tooDeep)
  | fuel + 1, id =>
    match nodes.contentOf id with
    | .scalar text => .ok text
    | .sequence _ => .error .malformed
    | .mapping pairs =>
      match pairs.find? fun (key, _) => nodes.tagOf key == defaultTag with
      | some (_, value) => scalarText nodes fuel value
      | none => .error .malformed

/-- What a scalar tag makes of a node. Only a node that is a scalar itself can be a time. -/
def makeScalar (kind : ScalarKind) (id : NodeId) : Make Item := do
  let nodes := (← get).nodes
  let text ← scalarText nodes (nodes.size + 1) id
  match kind, nodes.contentOf id with
  | .time, .mapping _ => throw (.error .wrongType)
  | _, _ => return .scalar (← scalar kind id text)

/-- Makes a collection that is filled later. -/
def makeCollection (kind : CollectionKind) (id : NodeId) : Make Item := do
  modify fun s =>
    { s with collections := s.collections.setIfInBounds id (.empty kind), met := s.met.push id }
  return .collection id

/-- What a node stands for. It is made once. -/
def make (id : NodeId) : Make Item := do
  let s ← get
  match s.made.getD id none with
  | some item => return item
  | none =>
    let tag := s.nodes.tagOf id
    let item ← match ScalarKind.ofTag? tag, CollectionKind.ofTag? tag with
      | some kind, _ => makeScalar kind id
      | none, some kind => makeCollection kind id
      | none, none => throw .malformed
    modify fun s => { s with made := s.made.setIfInBounds id (some item) }
    return item

/-- What a node stands for that is a key. No collection is a key. -/
def makeKey (id : NodeId) : Make Value := do
  match ← make id with
  | .scalar value => return value
  | .collection _ => throw .malformed

/-! ## Merging -/

/-- The pairs of a node. -/
def pairsAt (id : NodeId) : Make (List (NodeId × NodeId)) := do
  return ((← get).nodes.pairs? id).getD []

/-- Gives a mapping other pairs. -/
def setPairs (id : NodeId) (pairs : List (NodeId × NodeId)) : Make Unit :=
  modify fun s => { s with nodes := s.nodes.setContent id (.mapping pairs) }

mutual

/-- Puts the entries that a mapping merges before its own. A merge entry is taken out before what it
leads to is looked at, so there are fewer of them in each call, and a mapping that merges itself
comes to an end. -/
def flatten (fuel : Nat) (id : NodeId) : Make Unit := do
  match fuel with
  | 0 => throw (.error .tooDeep)
  | fuel + 1 =>
    let merged ← mergedFrom fuel id ((← pairsAt id).length + 1) 0
    if !merged.isEmpty then setPairs id (merged ++ (← pairsAt id))
termination_by (fuel, 0)

/-- The pairs that the entries of a mapping from place `index` on merge, in as many steps as it has
entries: if it is met again on the way, it has no merge entries afterwards. A default mark becomes a
plain key. -/
def mergedFrom (fuel : Nat) (id : NodeId) (steps index : Nat) : Make (List (NodeId × NodeId)) := do
  match fuel, steps with
  | 0, _ => throw (.error .tooDeep)
  | _, 0 => return []
  | fuel + 1, steps + 1 =>
    let pairs ← pairsAt id
    match pairs[index]? with
    | none => return []
    | some (key, value) =>
      let tag := (← get).nodes.tagOf key
      if tag == mergeTag then
        setPairs id (pairs.eraseIdx index)
        let first ← mergedPairs fuel value
        return first ++ (← mergedFrom (fuel + 1) id steps index)
      else
        if tag == defaultTag then
          modify fun s => { s with nodes := s.nodes.setTag key (coreTag "str") }
        mergedFrom (fuel + 1) id steps (index + 1)
termination_by (fuel, steps)

/-- The pairs that a node brings in when it is merged: a mapping's, or those of several mappings. -/
def mergedPairs (fuel : Nat) (id : NodeId) : Make (List (NodeId × NodeId)) := do
  match fuel with
  | 0 => throw (.error .tooDeep)
  | fuel + 1 =>
    match (← get).nodes.contentOf id with
    | .mapping _ =>
      flatten fuel id
      pairsAt id
    | .sequence items => mergedLists fuel items
    | .scalar _ => throw .malformed
termination_by (fuel, 0)

/-- The pairs of several mappings that are merged at once, the last one's first. -/
def mergedLists (fuel : Nat) (ids : List NodeId) : Make (List (NodeId × NodeId)) := do
  match fuel, ids with
  | _, [] => return []
  | 0, _ => throw (.error .tooDeep)
  | fuel + 1, id :: rest =>
    match (← get).nodes.contentOf id with
    | .mapping _ =>
      flatten fuel id
      let first ← pairsAt id
      return (← mergedLists (fuel + 1) rest) ++ first
    | _ => throw .malformed
termination_by (fuel, ids.length)

end

/-! ## Filling -/

/-- How many pairs the mappings of a document have. -/
def pairCount (nodes : Nodes) : Nat :=
  nodes.foldl (fun count node =>
    match node.content with
    | .mapping pairs => count + pairs.length
    | _ => count) 0

/-- The entries of a mapping, merged ones among them. -/
def entriesOf (fuel : Nat) (id : NodeId) : Make (List (Value × Item)) := do
  match (← get).nodes.pairs? id with
  | none => throw .malformed
  | some _ =>
    flatten fuel id
    (← pairsAt id).foldlM (fun entries (key, value) => do
      let key ← makeKey key
      return Value.insert entries key (← make value)) []

/-- The one pair of a mapping in a list of pairs. -/
def singlePair (id : NodeId) : Make (Item × Item) := do
  match (← get).nodes.pairs? id with
  | some [(key, value)] =>
    let key ← make key
    return (key, ← make value)
  | _ => throw .malformed

/-- What is in a collection of a kind. -/
def fillingOf (fuel : Nat) (kind : CollectionKind) (id : NodeId) : Make Collection := do
  match kind, (← get).nodes.contentOf id with
  | .list, .sequence items => return .list (← items.mapM make)
  | .pairs, .sequence items => return .pairs (← items.mapM singlePair)
  | .map, _ => return .map (← entriesOf fuel id)
  | .set, _ => return .set ((← entriesOf fuel id).map (·.1))
  | _, _ => throw .malformed

/-- Fills the collections that were met, from the one in place `index` on. Each node is met once. -/
def fillFrom (bound : Nat) : Nat → (index : Nat) → Make Unit
  | 0, _ => return
  | fuel + 1, index => do
    let s ← get
    match s.met[index]? with
    | none => return
    | some id =>
      match CollectionKind.ofTag? (s.nodes.tagOf id) with
      | none => throw .malformed
      | some kind =>
        let filling ← fillingOf bound kind id
        modify fun s => { s with collections := s.collections.setIfInBounds id filling }
        fillFrom bound fuel (index + 1)

/-- The settings document that a YAML document stands for. -/
def Document.ofYaml (document : Yaml.Document) : Except Failure Document := do
  let nodes := document.nodes
  let start : Making := {
    nodes
    made := Array.replicate nodes.size none
    collections := Array.replicate nodes.size (.list []) }
  let making : Make Item := do
    let root ← make document.root
    fillFrom (4 * (pairCount nodes + 2)) (nodes.size + 1) 0
    return root
  let (root, s) ← making.run start
  return ⟨s.collections, root⟩

/-- The settings document in a stream that comes in loads; one without content is null. -/
def Document.ofLoads (loads : List (Except Utf8.DecodeError (List Char))) :
    Except Failure Document := do
  match ← Yaml.documentOf (.ofLoads loads) with
  | some document => Document.ofYaml document
  | none => return ⟨#[], .scalar .null⟩

/-! ## Looking -/

namespace Document

/-- What is in a collection. -/
def collectionAt (d : Document) (id : NodeId) : Collection := d.collections.getD id (.list [])

/-- Whether an item counts as none. -/
def isFalsy (d : Document) : Item → Bool
  | .scalar value => value.isFalsy
  | .collection id =>
    match d.collectionAt id with
    | .list items => items.isEmpty
    | .pairs pairs => pairs.isEmpty
    | .map entries => entries.isEmpty
    | .set keys => keys.isEmpty

/-- The entries of an item that is a mapping. -/
def entries? (d : Document) : Item → Option (List (Value × Item))
  | .scalar _ => none
  | .collection id =>
    match d.collectionAt id with
    | .map entries => some entries
    | _ => none

/-- The value of an item inside the collections `around` it, none of which is unfolded again. A
collection has fewer others to be inside of with each level, so the number of collections is enough
for `fuel`. -/
def unfold (d : Document) : (fuel : Nat) → (around : List NodeId) → Item → Value
  | _, _, .scalar value => value
  | 0, _, .collection _ => .sameList
  | fuel + 1, around, .collection id =>
    let value := d.unfold fuel (id :: around)
    match d.collectionAt id, around.contains id with
    | .list _, true | .pairs _, true => .sameList
    | .map _, true => .sameMap
    | .list items, false => .list (items.map value)
    | .pairs pairs, false => .list (pairs.map fun (key, item) => .pair (value key) (value item))
    | .map entries, false => .map (entries.map fun (key, item) => (key, value item))
    | .set keys, _ => .set keys

/-- The value of an item. -/
def valueOf (d : Document) (item : Item) : Value := d.unfold (d.collections.size + 1) [] item

end Document

end Unbundle.Settings
