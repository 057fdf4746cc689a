import Unbundle.Callable
import Unbundle.Error

/-!
# Listing a tree

A tree as text, one line a node, each indented by its depth, the callables that would be extracted
marked. The listing stops after a number of nodes and does not go below a depth.
-/

namespace Unbundle

/-- How a tree is listed. -/
structure ListingOptions where
  showText : Bool := true
  textLimit : Int := 60
  maxNodes : Int := 5000
  maxDepth : Option Int := none
  showBytes : Bool := false
  indent : String := "  "

/-- A node and how deep it lies. -/
structure Placed where
  depth : Nat
  node : Node

namespace ListingOptions

/-- Whether the inside of a node at `depth` is listed. -/
def descends (opts : ListingOptions) (depth : Nat) : Bool := opts.maxDepth.all ((depth : Int) < ·)

end ListingOptions

mutual

/-- Lists a tree in document order while `room` nodes may still be listed; gives the nodes and the
room left. -/
def Node.walk (opts : ListingOptions) (depth room : Nat) : Node → List Placed × Nat
  | .mk info children =>
    match room with
    | 0 => ([], 0)
    | room + 1 =>
      let (inside, left) :=
        if opts.descends depth then walkAll opts (depth + 1) room children else ([], room)
      (⟨depth, .mk info children⟩ :: inside, left)

/-- Lists trees one after the other while `room` nodes may still be listed. -/
def walkAll (opts : ListingOptions) (depth room : Nat) : List Node → List Placed × Nat
  | [] => ([], room)
  | node :: rest =>
    let (first, room) := node.walk opts depth room
    let (others, left) := walkAll opts depth room rest
    (first ++ others, left)

end

/-- The first `limit` characters of a text; a negative limit counts from its end. -/
def takeChars (limit : Int) (cs : List Char) : List Char :=
  if 0 ≤ limit then cs.take limit.toNat else cs.take (cs.length - (-limit).toNat)

/-- The text of a node on one line, cut at a limit. -/
def Node.snippet (source : Bytes) (limit : Int) (node : Node) : String :=
  let line :=
    ((node.text source).toList.filter (· != '\r')).map fun c => if c == '\n' then ' ' else c
  if limit < line.length then String.ofList (takeChars limit line ++ ['…']) else String.ofList line

/-- The range of a node: rows from one, columns from zero. -/
def Node.rangeWords (source : Bytes) (node : Node) : String :=
  let startColumn := columnAt source node.info.start
  let stopColumn := columnAt source node.info.stop
  s!"[{node.startRow source + 1}:{startColumn}-{node.stopRow source + 1}:{stopColumn}]"

/-- Whether a node is marked: it defines a callable and starts where a located one does. -/
def Node.isMarked (marked : List Nat) (node : Node) : Bool :=
  marked.contains node.info.start && node.info.kind == Callable.nodeKind

/-- The line of a node. The role of the outermost node is not shown. -/
def Placed.line (opts : ListingOptions) (source : Bytes) (marked : List Nat) (p : Placed) :
    String :=
  let info := p.node.info
  let role := if p.depth == 0 then "" else (info.field.filter (· != "")).elim "" (· ++ ": ")
  String.join (List.replicate p.depth opts.indent) ++
    (if p.node.isMarked marked then "* " else "") ++ role ++ info.kind ++ " " ++
    p.node.rangeWords source ++
    (if opts.showBytes then s!" <{info.start}-{info.stop}>" else "") ++
    (if opts.showText && info.named then " :: " ++ p.node.snippet source opts.textLimit else "")

/-- The lines of a tree, and a last one if the listing stopped for want of room. -/
def Node.listing (opts : ListingOptions) (source : Bytes) (marked : List Nat) (root : Node) :
    List String :=
  let (placed, _) := root.walk opts 0 opts.maxNodes.toNat
  placed.map (·.line opts source marked) ++
    if opts.maxNodes ≤ placed.length then
      [opts.indent ++ s!"… (truncated at {opts.maxNodes} nodes)"]
    else []

/-- The bytes at which the located callables start. -/
def markedStarts (source : Bytes) (root : Node) : List Nat :=
  (Callable.definingNodes root).filterMap fun node =>
    (Callable.ofNode? source node).map fun _ => node.info.start

/-- The names of the located callables, or a dash. -/
def callableNames (callables : List Callable) : String :=
  if callables.isEmpty then "-" else ", ".intercalate (callables.map (·.name))

/-- A module's tree as text, headed by the file name, the callables and the diagnostics. -/
def listModule (fileName : String) (opts : ListingOptions) (text : String) (root : Node) : String :=
  let source := Utf8.encode text
  "\n".intercalate (
    ["# file=" ++ fileName,
      "# top-level callables: " ++ callableNames (Callable.locate source root)] ++
    (root.diagnostics source).map ("# diagnostic: " ++ ·.words) ++ [""] ++
    root.listing opts source (markedStarts source root))

end Unbundle
