import Unbundle.Notice
import Unbundle.Text.Blank
import Unbundle.Text.Lowercase
import Unbundle.Tree.Diagnostic

/-!
# Callables

Functions, filters and workflows that stand in the outermost statement list of a module. Only the
wrappers of that list are looked into, so a callable inside another one, in a control-flow block or
in unreadable text is not located.
-/

namespace Unbundle

/-- A callable of a module: its name as written, its keyword in lower case, the bytes and lines it
covers and its text. -/
structure Callable where
  name : String
  keyword : String := "function"
  start : Int := 0
  stop : Int := 0
  startLine : Int := 1
  endLine : Int := 1
  text : String := ""
  deriving DecidableEq, Repr

namespace Callable

/-- The keyword of a filter. -/
def filterKeyword : String := "filter"

/-- Whether a callable is a filter. -/
def isFilter (c : Callable) : Bool := c.keyword == filterKeyword

/-- The scopes that may stand before a name. -/
def scopes : List String := ["global:", "script:", "local:", "private:"]

/-- The name without a scope before it. -/
def stem (c : Callable) : String :=
  let name := c.name.toList
  let lowered := Text.lowerChars name
  match scopes.find? (fun scope => scope.toList.isPrefixOf lowered) with
  | some scope => String.ofList (name.drop scope.length)
  | none => c.name

/-- The kind of a node that defines a callable. -/
def nodeKind : String := "function_statement"

/-- The kind of a node that names a callable. -/
def nameKind : String := "function_name"

/-- The kinds of nodes that wrap the outermost statement list. -/
def wrapperKinds : List String := ["statement_list", "script_block", "script_block_body"]

/-- Where callables are looked for. -/
def visit (info : NodeInfo) : Visit :=
  if info.kind == nodeKind then .take
  else if wrapperKinds.contains info.kind then .enter
  else .leave

/-- The trimmed text of a node. -/
def trimmedText (source : Bytes) (node : Node) : String :=
  String.ofList (Text.trim (node.text source).toList)

/-- The name that a defining node carries, empty if it carries none: its first name node, or else
what follows the keyword. -/
def nameOf (source : Bytes) (node : Node) : String :=
  match node.children.find? (·.info.kind == nameKind) with
  | some child => trimmedText source child
  | none =>
    match node.children with
    | _ :: second :: _ => trimmedText source second
    | _ => ""

/-- The callable that a node defines, unless it has no name. -/
def ofNode? (source : Bytes) (node : Node) : Option Callable :=
  let name := nameOf source node
  if name.isEmpty then none
  else some {
    name
    keyword := match node.children with
      | [] => "function"
      | first :: _ => Text.lower (first.text source)
    start := node.info.start
    stop := node.info.stop
    startLine := node.startRow source + 1
    endLine := node.stopRow source + 1
    text := node.text source }

/-- The nodes that define the callables of a module. -/
def definingNodes (root : Node) : List Node := gatherAll visit root.children

/-- The callables of a module, in document order. -/
def locate (source : Bytes) (root : Node) : List Callable :=
  (definingNodes root).filterMap (ofNode? source)

/-- What is told about locating the callables of a module. -/
def locateNotices (source : Bytes) (root : Node) : List Notice :=
  ((definingNodes root).filter fun node => (ofNode? source node).isNone).map
      (fun node => .unnamedCallable (node.startRow source + 1))
    ++ [.located ((locate source root).map (·.name))]

/-- Whether a diagnostic lies inside a callable. -/
def encloses (c : Callable) (d : Diagnostic) : Bool := c.start ≤ d.start && d.stop ≤ c.stop

/-- The diagnostics that lie in none of the callables. A callable is copied as it stands, so a
complaint inside it affects nothing. -/
def diagnosticsOutside (diagnostics : List Diagnostic) (callables : List Callable) :
    List Diagnostic :=
  diagnostics.filter fun d => !callables.any (·.encloses d)

/-- What is told about the diagnostics that are dropped. -/
def outsideNotices (diagnostics : List Diagnostic) (callables : List Callable) : List Notice :=
  (diagnostics.filter fun d => callables.any (·.encloses d)).map (.problemInsideCallable ·.words)

end Callable

end Unbundle
