import Unbundle.Tree.Node

/-!
# Rows inside string literals

The rows that belong to the content of a string literal or here-string of several lines: all it
covers but the one it opens on. Blank rows among them are content and must stay.
-/

namespace Unbundle

/-- The endings of the kinds of string nodes. -/
def stringKindEndings : List String := ["string_literal", "string_characters"]

/-- Whether a node is a string literal. -/
def NodeInfo.isString (info : NodeInfo) : Bool :=
  info.named && stringKindEndings.any fun ending => ending.toList.isSuffixOf info.kind.toList

/-- Where string literals are looked for. -/
def stringVisit (info : NodeInfo) : Visit := if info.isString then .take else .enter

/-- The outermost string literals of a tree, in document order. -/
def Node.strings (root : Node) : List Node := root.gather stringVisit

/-- Whether a row is content of a string literal. -/
def Node.coversRow (source : Bytes) (row : Nat) (node : Node) : Bool :=
  node.startRow source < row && row ≤ node.stopRow source

/-- The rows, counted from zero, that are content of the string literals of a tree; ascending. -/
def Node.stringRows (source : Bytes) (root : Node) : List Nat :=
  let strings := root.strings
  (List.range (rowAt source source.length + 1)).filter fun row =>
    strings.any (·.coversRow source row)

end Unbundle
