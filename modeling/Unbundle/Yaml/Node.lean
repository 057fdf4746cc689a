import Unbundle.Text.Letter

/-!
# Nodes of a YAML document

The nodes of a document are numbered. A collection refers to the nodes in it by number, and so an
alias is the number of the node that it stands for: a node can have several places in a document,
and a collection can be inside itself.
-/

namespace Unbundle.Yaml

/-- The number of a node. -/
abbrev NodeId := Nat

/-- What a node consists of. -/
inductive Content
  | scalar (text : Letters)
  | sequence (items : List NodeId)
  | mapping (pairs : List (NodeId × NodeId))

/-- A node of a document. -/
structure Node where
  tag : String
  content : Content

/-- The nodes of a document, by number. -/
abbrev Nodes := Array Node

/-- A document: its nodes, and the one that holds all others. -/
structure Document where
  nodes : Nodes
  root : NodeId

namespace Nodes

/-- The tag of a node. -/
def tagOf (nodes : Nodes) (id : NodeId) : String := (nodes[id]?.map (·.tag)).getD ""

/-- What a node consists of; one that is not there is an empty scalar. -/
def contentOf (nodes : Nodes) (id : NodeId) : Content :=
  (nodes[id]?.map (·.content)).getD (.scalar [])

/-- The pairs of a node that is a mapping. -/
def pairs? (nodes : Nodes) (id : NodeId) : Option (List (NodeId × NodeId)) :=
  match nodes.contentOf id with
  | .mapping pairs => some pairs
  | _ => none

/-- The nodes with other content in one of them. -/
def setContent (nodes : Nodes) (id : NodeId) (content : Content) : Nodes :=
  nodes.modify id fun node => { node with content }

/-- The nodes with another tag on one of them. -/
def setTag (nodes : Nodes) (id : NodeId) (tag : String) : Nodes :=
  nodes.modify id fun node => { node with tag }

end Nodes

end Unbundle.Yaml
