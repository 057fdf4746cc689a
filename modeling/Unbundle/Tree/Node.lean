import Unbundle.Text.Utf8

/-!
# Syntax trees

A node covers a range of bytes of a text and has a kind. Trees are taken as they come: ranges may
lie out of order, beyond the text or inside a character, and the flags need not agree with the
children.

All searches in a tree are one traversal in document order, `Node.gather`, told at each node whether
to take it, to look inside it or to leave it.
-/

namespace Unbundle

/-- What a node says about itself, apart from its children. -/
structure NodeInfo where
  kind : String
  start : Nat
  stop : Nat
  named : Bool := false
  missing : Bool := false
  hasError : Bool := false
  /-- The role of the node in its parent. -/
  field : Option String := none
  deriving DecidableEq, Repr

/-- A node of a syntax tree. -/
inductive Node
  | mk (info : NodeInfo) (children : List Node)

namespace Node

/-- What a node says about itself. -/
def info : Node → NodeInfo
  | mk info _ => info

/-- The nodes directly inside a node. -/
def children : Node → List Node
  | mk _ children => children

end Node

/-- What a search does at a node. -/
inductive Visit
  /-- The node is a result; its inside is not searched. -/
  | take
  /-- The search goes on inside the node. -/
  | enter
  /-- The node and its inside are left alone. -/
  | leave
  deriving DecidableEq, Repr

mutual

/-- The nodes that a search takes in a tree, in document order. -/
def Node.gather (visit : NodeInfo → Visit) : Node → List Node
  | .mk info children =>
    match visit info with
    | .take => [.mk info children]
    | .enter => gatherAll visit children
    | .leave => []

/-- The nodes that a search takes in a list of trees, in document order. -/
def gatherAll (visit : NodeInfo → Visit) : List Node → List Node
  | [] => []
  | node :: rest => node.gather visit ++ gatherAll visit rest

end

/-- The row of a byte offset: how many line feeds stand before it. -/
def rowAt (source : Bytes) (offset : Nat) : Nat := (source.take offset).count 0x0a

/-- The column of a byte offset: how many bytes stand between the last line feed before it and it.
An offset behind the text counts as the end of the text. -/
def columnAt (source : Bytes) (offset : Nat) : Nat :=
  ((source.take offset).reverse.takeWhile (· != 0x0a)).length

namespace Node

/-- The bytes that a node covers. -/
def bytes (source : Bytes) (node : Node) : Bytes :=
  (source.take node.info.stop).drop node.info.start

/-- The text that a node covers, with U+FFFD for what is not text. -/
def text (source : Bytes) (node : Node) : String := Utf8.decodeLossy (node.bytes source)

/-- The row on which a node starts. -/
def startRow (source : Bytes) (node : Node) : Nat := rowAt source node.info.start

/-- The row on which a node ends. -/
def stopRow (source : Bytes) (node : Node) : Nat := rowAt source node.info.stop

end Node

/-- Where trees come from: the tree of the `k`-th parse of a run, for the text that is parsed. A
source may have no tree to offer; a tree that is too deep to be walked through is none. -/
abbrev TreeSource := Nat → String → Option Node

/-- A source that hands out the trees of a list one after the other, whatever the text. -/
def TreeSource.ofList (trees : List Node) : TreeSource := fun k _ => trees[k]?

end Unbundle
