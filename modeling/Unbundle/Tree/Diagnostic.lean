import Unbundle.Text.Blank
import Unbundle.Text.Quoted
import Unbundle.Tree.Node

/-!
# Diagnostics

Where a text does not parse. A diagnostic comes from an outermost node that the grammar inserted or
could not read; nodes that report no error inside are not searched.
-/

namespace Unbundle

/-- A complaint about a place in a text; lines count from one. -/
structure Diagnostic where
  line : Int
  column : Int
  message : String
  start : Int := 0
  stop : Int := 0
  deriving DecidableEq, Repr

/-- A diagnostic in words. -/
def Diagnostic.words (d : Diagnostic) : String := s!"line {d.line}, column {d.column}: {d.message}"

/-- The kind of a node that the grammar could not read. -/
def errorKind : String := "ERROR"

/-- Where complaints are looked for. -/
def complaintVisit (info : NodeInfo) : Visit :=
  if info.missing || info.kind == errorKind then .take
  else if info.hasError then .enter
  else .leave

/-- How many characters of a faulty text a diagnostic shows. -/
def excerptLength : Nat := 40

/-- The first line of a text, trimmed and cut. -/
def excerpt (text : String) : String :=
  String.ofList (((Text.trim text.toList).takeWhile (!Text.isLineBreak ·)).take excerptLength)

/-- The complaint about a node that was inserted or could not be read. -/
def Node.complaint (source : Bytes) (node : Node) : Diagnostic where
  line := node.startRow source + 1
  column := columnAt source node.info.start
  message :=
    if node.info.missing then s!"missing '{node.info.kind}'"
    else s!"syntax error near {Text.quoted (excerpt (node.text source))}"
  start := node.info.start
  stop := node.info.stop

/-- The diagnostics of a tree, in document order. -/
def Node.diagnostics (source : Bytes) (root : Node) : List Diagnostic :=
  if root.info.hasError then (root.gather complaintVisit).map (·.complaint source) else []

end Unbundle
