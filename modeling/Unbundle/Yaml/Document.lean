import Unbundle.Yaml.Node
import Unbundle.Yaml.Tag
import Unbundle.Yaml.Token

/-!
# The document of a YAML stream

Tokens are put together to nodes with resolved tags. A stream holds at most one document. A token is
read only when it is needed, so of two faults the one that comes up first is reported. Every call
reads a token or ends a collection, and every token but those that open and close block collections
or mark keys takes a character, so the length of the stream bounds the number of calls.
-/

namespace Unbundle.Yaml

/-- How far the nodes have been put together. -/
structure Composer where
  scanner : Scanner
  /-- The prefixes that tag handles stand for. -/
  handles : List (String × String) := []
  anchors : List (String × NodeId) := []
  nodes : Nodes := #[]

/-- A step of putting nodes together. -/
abbrev Compose := StateT Composer (Except Failure)

/-- The next token. -/
def peekToken : Compose Token := do
  let (token, scanner) ← (← get).scanner.peek
  modify fun s => { s with scanner }
  return token

/-- Moves on over a token. -/
def skipToken : Compose Unit := modify fun s => { s with scanner := s.scanner.take }

/-- Gives up. -/
def malformed {α : Type} : Compose α := throw .malformed

/-- Adds a node. -/
def addNode (tag : String) (content : Content) : Compose NodeId := do
  let id := (← get).nodes.size
  modify fun s => { s with nodes := s.nodes.push ⟨tag, content⟩ }
  return id

/-- Adds what stands where nothing is written. -/
def addEmpty : Compose NodeId := addNode (coreTag "null") (.scalar [])

/-! ## Properties of nodes -/

/-- Reads the anchor and the tag before a node, in either order. -/
def properties : Compose (Option String × Option TagText) := do
  match ← peekToken with
  | .anchor name =>
    skipToken
    match ← peekToken with
    | .tag text =>
      skipToken
      return (some name, some text)
    | _ => return (some name, none)
  | .tag text =>
    skipToken
    match ← peekToken with
    | .anchor name =>
      skipToken
      return (some name, some text)
    | _ => return (none, some text)
  | _ => return (none, none)

/-- The tag that a written one stands for. -/
def resolveTag (text : TagText) : Compose String := do
  match text.handle with
  | none => return text.suffix
  | some handle =>
    match (← get).handles.lookup handle with
    | some start => return start ++ text.suffix
    | none => malformed

/-- The tag of a collection whose usual tag is `usual`. -/
def tagOr (tag : Option String) (usual : String) : String :=
  match tag with
  | none | some "!" => coreTag usual
  | some tag => tag

/-- The tag of a scalar. -/
def scalarTag (tag : Option String) (text : Letters) (plain : Bool) : String :=
  match tag with
  | none => if plain then implicitTag text else coreTag "str"
  | some "!" => implicitTag text
  | some tag => tag

/-- Refuses an anchor that another node has. -/
def checkAnchor (anchor : Option String) : Compose Unit := do
  match anchor with
  | none => return
  | some name => if ((← get).anchors.lookup name).isSome then malformed

/-- Gives an anchor to a node. -/
def setAnchor (anchor : Option String) (id : NodeId) : Compose Unit := do
  match anchor with
  | none => return
  | some name => modify fun s => { s with anchors := (name, id) :: s.anchors }

/-- Adds a scalar, which has all its tokens behind it. -/
def addScalar (anchor tag : Option String) (text : Letters) (plain : Bool) : Compose NodeId := do
  checkAnchor anchor
  let id ← addNode (scalarTag tag text plain) (.scalar text)
  setAnchor anchor id
  return id

/-- Adds a sequence; it has its anchor before its items are put together. -/
def addSequence (anchor tag : Option String) (items : Compose (List NodeId)) : Compose NodeId := do
  checkAnchor anchor
  let id ← addNode (tagOr tag "seq") (.sequence [])
  setAnchor anchor id
  let items ← items
  modify fun s => { s with nodes := s.nodes.setContent id (.sequence items) }
  return id

/-- Adds a mapping; it has its anchor before its pairs are put together. -/
def addMapping (anchor tag : Option String) (pairs : Compose (List (NodeId × NodeId))) :
    Compose NodeId := do
  checkAnchor anchor
  let id ← addNode (tagOr tag "map") (.mapping [])
  setAnchor anchor id
  let pairs ← pairs
  modify fun s => { s with nodes := s.nodes.setContent id (.mapping pairs) }
  return id

/-- Adds the empty scalar of a node that has properties only. -/
def addBare (anchor tag : Option String) : Compose NodeId :=
  if anchor.isSome || tag.isSome then addScalar anchor (some (tag.getD "!")) [] true else malformed

/-! ## Nodes -/

/-- How deep collections may be nested. -/
def depthLimit : Nat := 487

mutual

/-- Puts the next node together inside `depth` collections; `block` allows block collections, and
`indentless` block sequences that are not indented. -/
def compose : Nat → (depth : Nat) → (block indentless : Bool) → Compose NodeId
  | 0, _, _, _ => malformed
  | fuel + 1, depth, block, indentless => do
    if depthLimit < depth then throw (.error .tooDeep)
    if let .alias name := ← peekToken then
      skipToken
      match (← get).anchors.lookup name with
      | some id => return id
      | none => malformed
    else
      let (anchor, written) ← properties
      let tag ← written.mapM resolveTag
      match ← peekToken with
      | .blockEntry =>
        if indentless then addSequence anchor tag (composeEntries fuel (depth + 1))
        else addBare anchor tag
      | .scalar text plain =>
        skipToken
        addScalar anchor tag text plain
      | .flowSequenceStart =>
        addSequence anchor tag (do skipToken; composeFlowItems fuel (depth + 1) true)
      | .flowMappingStart =>
        addMapping anchor tag (do skipToken; composeFlowPairs fuel (depth + 1) true)
      | .blockSequenceStart =>
        if block then addSequence anchor tag (do skipToken; composeItems fuel (depth + 1))
        else addBare anchor tag
      | .blockMappingStart =>
        if block then addMapping anchor tag (do skipToken; composePairs fuel (depth + 1))
        else addBare anchor tag
      | _ => addBare anchor tag

/-- The items of a block sequence up to its end. -/
def composeItems : Nat → (depth : Nat) → Compose (List NodeId)
  | 0, _ => malformed
  | fuel + 1, depth => do
    match ← peekToken with
    | .blockEntry =>
      skipToken
      let item ← match ← peekToken with
        | .blockEntry | .blockEnd => addEmpty
        | _ => compose fuel depth true false
      return item :: (← composeItems fuel depth)
    | .blockEnd =>
      skipToken
      return []
    | _ => malformed

/-- The items of a block sequence that is not indented. -/
def composeEntries : Nat → (depth : Nat) → Compose (List NodeId)
  | 0, _ => malformed
  | fuel + 1, depth => do
    match ← peekToken with
    | .blockEntry =>
      skipToken
      let item ← match ← peekToken with
        | .blockEntry | .key | .value | .blockEnd => addEmpty
        | _ => compose fuel depth true false
      return item :: (← composeEntries fuel depth)
    | _ => return []

/-- The value behind a key of a block mapping. -/
def composeValue : Nat → (depth : Nat) → Compose NodeId
  | 0, _ => malformed
  | fuel + 1, depth => do
    match ← peekToken with
    | .value =>
      skipToken
      match ← peekToken with
      | .key | .value | .blockEnd => addEmpty
      | _ => compose fuel depth true true
    | _ => addEmpty

/-- The pairs of a block mapping up to its end. -/
def composePairs : Nat → (depth : Nat) → Compose (List (NodeId × NodeId))
  | 0, _ => malformed
  | fuel + 1, depth => do
    match ← peekToken with
    | .key =>
      skipToken
      let key ← match ← peekToken with
        | .key | .value | .blockEnd => addEmpty
        | _ => compose fuel depth true true
      let value ← composeValue fuel depth
      return (key, value) :: (← composePairs fuel depth)
    | .blockEnd =>
      skipToken
      return []
    | _ => malformed

/-- The value behind a key in a flow collection that `close` ends. -/
def composeFlowValue : Nat → (depth : Nat) → (close : Token) → Compose NodeId
  | 0, _, _ => malformed
  | fuel + 1, depth, close => do
    match ← peekToken with
    | .value =>
      skipToken
      let next ← peekToken
      if next == .flowEntry || next == close then addEmpty else compose fuel depth false false
    | _ => addEmpty

/-- The key and the value behind a key mark in a flow collection that `close` ends. -/
def composeFlowPair : Nat → (depth : Nat) → (close : Token) → Compose (NodeId × NodeId)
  | 0, _, _ => malformed
  | fuel + 1, depth, close => do
    let next ← peekToken
    let key ←
      if next == .value || next == .flowEntry || next == close then addEmpty
      else compose fuel depth false false
    return (key, ← composeFlowValue fuel depth close)

/-- The items of a flow sequence up to its end. A pair among them is a mapping of its own. -/
def composeFlowItems : Nat → (depth : Nat) → (first : Bool) → Compose (List NodeId)
  | 0, _, _ => malformed
  | fuel + 1, depth, first => do
    if (← peekToken) == .flowSequenceEnd then
      skipToken
      return []
    if !first then
      if (← peekToken) == .flowEntry then skipToken else malformed
    match ← peekToken with
    | .flowSequenceEnd =>
      skipToken
      return []
    | .key =>
      skipToken
      let pair ←
        addMapping none none (do return [← composeFlowPair fuel (depth + 1) .flowSequenceEnd])
      return pair :: (← composeFlowItems fuel depth false)
    | _ =>
      let item ← compose fuel depth false false
      return item :: (← composeFlowItems fuel depth false)

/-- The pairs of a flow mapping up to its end. -/
def composeFlowPairs : Nat → (depth : Nat) → (first : Bool) → Compose (List (NodeId × NodeId))
  | 0, _, _ => malformed
  | fuel + 1, depth, first => do
    if (← peekToken) == .flowMappingEnd then
      skipToken
      return []
    if !first then
      if (← peekToken) == .flowEntry then skipToken else malformed
    match ← peekToken with
    | .flowMappingEnd =>
      skipToken
      return []
    | .key =>
      skipToken
      let pair ← composeFlowPair fuel depth .flowMappingEnd
      return pair :: (← composeFlowPairs fuel depth false)
    | _ =>
      let key ← compose fuel depth false false
      let value ← addEmpty
      return (key, value) :: (← composeFlowPairs fuel depth false)

end

/-! ## Documents -/

/-- The handles that every document knows. -/
def usualHandles : List (String × String) := [("!", "!"), ("!!", "tag:yaml.org,2002:")]

/-- Reads the directives before a document: whether a version was given, and the handles. -/
def directives : Nat → (version : Bool) → List (String × String) → Compose (List (String × String))
  | 0, _, _ => malformed
  | fuel + 1, version, handles => do
    match ← peekToken with
    | .directive text =>
      skipToken
      match text with
      | .version major _ =>
        if version || major != 1 then malformed else directives fuel true handles
      | .tag handle shorthand =>
        if (handles.lookup handle).isSome then malformed
        else directives fuel version ((handle, shorthand) :: handles)
      | .unknown => directives fuel version handles
    | _ => return handles ++ usualHandles

/-- Moves on over marks of the end of a document. -/
def skipEnds : Nat → Compose Unit
  | 0 => malformed
  | fuel + 1 => do
    if (← peekToken) == .documentEnd then
      skipToken
      skipEnds fuel

/-- Reads the start of a document that is marked. -/
def openDocument (fuel : Nat) : Compose Unit := do
  let handles ← directives fuel false []
  if (← peekToken) == .documentStart then
    skipToken
    modify fun s => { s with handles }
  else malformed

/-- Reads the start of a document, and its node. -/
def documentNode (fuel : Nat) : Compose NodeId := do
  match ← peekToken with
  | .directive _ | .documentStart =>
    openDocument fuel
    match ← peekToken with
    | .directive _ | .documentStart | .documentEnd | .streamEnd => addEmpty
    | _ => compose fuel 0 true false
  | _ =>
    modify fun s => { s with handles := usualHandles }
    compose fuel 0 true false

/-- Refuses a second document: only marks of the end may follow. -/
def endDocument (fuel : Nat) : Compose Unit := do
  skipEnds fuel
  if (← peekToken) != .streamEnd then
    openDocument fuel
    malformed

/-- The one document in a stream, if it has one. -/
def documentOf (cursor : Cursor) : Except Failure (Option Document) := do
  let fuel := 8 * cursor.left + 16
  let read : Compose (Option NodeId) := do
    if (← peekToken) == .streamEnd then return none
    else
      let root ← documentNode fuel
      endDocument fuel
      return some root
  let (root, s) ← read.run { scanner := .start cursor }
  return root.map fun root => ⟨s.nodes, root⟩

end Unbundle.Yaml
