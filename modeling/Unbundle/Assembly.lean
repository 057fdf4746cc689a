import Unbundle.Attempt
import Unbundle.Leftover.BlankRows
import Unbundle.Leftover.Directive
import Unbundle.Leftover.Spans
import Unbundle.Leftover.StringRows
import Unbundle.Loader
import Unbundle.Plan

/-!
# Assembling the split module

Once every callable has a file to go to, the module is put together anew: the callables and an old
loader go, blank rows collapse, and the new loader follows what is left.
-/

namespace Unbundle

/-- The line ending of a text: carriage return and line feed if they occur together, else the line
feed. -/
def newlineOf (text : String) : String :=
  if Text.contains ['\r', '\n'] text.toList then "\r\n" else "\n"

/-- The tree of a parse, if the source has one. -/
def TreeSource.parse (source : TreeSource) (k : Nat) (text : String) : Except Error Node :=
  match source k text with
  | some tree => .ok tree
  | none => .error .outOfTrees

/-- The lines of a text with export directives. The text is parsed, as parse `k`, only if it
mentions them. -/
def directiveLines (source : TreeSource) (k : Nat) (text : String) : Except Error (List Nat) :=
  if Directive.mentioned text then
    (source.parse k text).map (Directive.linesIn (Utf8.encode text))
  else .ok []

/-- The rows of a text inside string literals, from its parse `k`. -/
def stringRows (source : TreeSource) (k : Nat) (text : String) : Except Error (List Nat) :=
  (source.parse k text).map (Node.stringRows (Utf8.encode text))

/-- What is to be done to a module: the callables to take out, last first, and the loader to
append. -/
structure Assembly where
  removed : List Callable
  loader : String

namespace Assembly

/-- The assembly for a plan; all callables must be written. -/
def ofPlan (plan : Plan) (loader : String) : Except Error Assembly :=
  if plan.anySkip then .error (.invalid .skipsInAssembly)
  else .ok ⟨(plan.writes.map (·.callable)).mergeSort fun a b => b.start ≤ a.start, loader⟩

/-- The spans of the callables to take out. -/
def spans (a : Assembly) : List Span := a.removed.map fun c => ⟨c.start, c.stop⟩

/-- The text of a module without the callables. -/
def withoutCallables (a : Assembly) (text : String) : Except Error String :=
  match Span.remove (Utf8.encode text) a.spans with
  | .error e => .error e
  | .ok bytes => (Utf8.decode bytes).mapError .undecodable

/-- The leftover and the loader after it, with an empty line between them. -/
def appendLoader (leftover newline loader : String) : String :=
  if leftover.isEmpty then loader else leftover ++ newline ++ newline ++ loader

/-- A module put together anew. -/
structure Result where
  text : String
  directiveLines : List Nat
  replacedLoader : Bool
  deriving DecidableEq, Repr

/-- What the user is warned of: directives that stay. -/
def Result.warnings (r : Result) : List String := r.directiveLines.map exportLeftMessage

/-- Puts a module together. The leftover is parsed as parse 1 to find its string literals, and the
collapsed leftover as parse 2 to find directives. -/
def apply (a : Assembly) (source : TreeSource) (text : String) : Attempt Result := do
  let remaining ← .ofExcept (a.withoutCallables text)
  let (stripped, replaced) := Loader.strip remaining
  .tellAll (if replaced then [.replacingLoader] else [])
  let guarded ← .ofExcept (stringRows source 1 stripped)
  let leftover := BlankRows.collapse stripped guarded
  let lines ← .ofExcept (directiveLines source 2 leftover)
  .tellAll (lines.map .exportLeft)
  return ⟨appendLoader leftover (newlineOf text) a.loader, lines, replaced⟩

end Assembly

end Unbundle
