import Unbundle.Text.Blank
import Unbundle.Text.Lowercase
import Unbundle.Tree.Node

/-!
# Export directives

Commands that say what a module publishes. They may be qualified by a module name and written in any
case. A text that does not hold the word at all need not be parsed.
-/

namespace Unbundle.Directive

/-- The command that publishes, in lower case. -/
def command : String := "export-modulemember"

/-- The kind of a node that names a command. -/
def commandKind : String := "command_name"

/-- Where commands are looked for. -/
def visit (info : NodeInfo) : Visit := if info.kind == commandKind then .take else .enter

/-- Whether a command name, perhaps qualified, is the directive. -/
def isDirective (name : String) : Bool :=
  Text.lowerChars (Text.afterLast '\\' (Text.trim name.toList)) == command.toList

/-- The lines, counted from one, on which a tree has directives; in document order. -/
def linesIn (source : Bytes) (root : Node) : List Nat :=
  ((root.gather visit).filter fun node => isDirective (node.text source)).map
    fun node => node.startRow source + 1

/-- Whether a text holds the directive's name at all, in any case. -/
def mentioned (text : String) : Bool :=
  Text.contains command.toList (Text.lowerChars text.toList)

end Unbundle.Directive
