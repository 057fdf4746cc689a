import Unbundle.Error
import Unbundle.Plan
import Unbundle.Text.Shorten

/-!
# Reports

What became of each callable of a module, in counts and as a table.
-/

namespace Unbundle

/-- The result of a split, or of a dry run of it. -/
structure Report where
  module : Path
  dryRun : Bool := false
  outcomes : List Outcome := []
  diagnostics : List Diagnostic := []
  warnings : List String := []
  written : List Path := []
  blocked : Bool := false
  replaced : Bool := false
  backup : Option Path := none
  deriving DecidableEq, Repr

namespace Report

/-- How many outcomes are to be written. -/
def writeCount (r : Report) : Nat := r.outcomes.countP (·.isWrite)

/-- How many callables have been extracted, or would be. -/
def extractedCount (r : Report) : Nat :=
  if r.blocked then 0 else if r.dryRun then r.writeCount else r.written.length

/-- How many callables were skipped. -/
def skippedCount (r : Report) : Nat := r.outcomes.countP (·.isSkip)

/-- How many callables were held back because of skips. -/
def withheldCount (r : Report) : Nat := if r.blocked then r.writeCount else 0

/-- Whether nothing stood in the way. -/
def ok (r : Report) : Bool := !r.blocked

/-- What became of a callable, in words. -/
def action (r : Report) (o : Outcome) : Except Error String :=
  if o.isSkip then
    match o.reason with
    | some reason => .ok s!"skip ({reason.word})"
    | none => .error .noSuchAttribute
  else if r.blocked then .ok "withheld"
  else if r.dryRun then .ok "would write"
  else if o.path.any r.written.contains then .ok "written"
  else .ok "not written"

/-- All warnings: those of parsing, then the others. -/
def allWarnings (r : Report) : List String :=
  r.diagnostics.map (fun d => "parse: " ++ d.words) ++ r.warnings

/-- The headings of the table. -/
def headings : List String := ["#", "Callable", "Kind", "Lines", "Action", "Target"]

/-- A row of the table. -/
def tableRow (cells : List String) : String := "| " ++ " | ".intercalate cells ++ " |"

/-- The row of the table for one outcome; the target is shortened to `width`. -/
def outcomeRow (r : Report) (width : Int) (number : Nat) (o : Outcome) : Except Error String := do
  let action ← r.action o
  let target := (o.path.map Path.toString).getD ""
  match Text.shorten? width target with
  | none => .error (.invalid (.width width))
  | some target =>
    let c := o.callable
    return tableRow [
      toString number, c.name, c.keyword, s!"{c.startLine}-{c.endLine}", action, target]

/-- The rows of the table from row `number` on. -/
def outcomeRows (r : Report) (width : Int) : Nat → List Outcome → Except Error (List String)
  | _, [] => .ok []
  | number, o :: rest => do
    let row ← r.outcomeRow width number o
    let rows ← r.outcomeRows width (number + 1) rest
    return row :: rows

/-- The table, or a line that says there is nothing in it. -/
def table (r : Report) (width : Int) : Except Error (List String) := do
  if r.outcomes.isEmpty then return ["No top-level callables found; nothing to do."]
  let rows ← r.outcomeRows width 1 r.outcomes
  return tableRow headings :: ("|" ++ "|".intercalate (headings.map fun _ => "---") ++ "|") :: rows

/-- A path, or the word for none. -/
def pathWord : Option Path → String
  | some path => path.toString
  | none => "None"

/-- The lines that tell what is done to the module. -/
def moduleLines (r : Report) : List String :=
  (if r.blocked then [s!"- Withheld: {r.withheldCount} (module left unchanged)"] else []) ++
  if r.dryRun && !r.outcomes.isEmpty && !r.blocked then
    s!"- Would remove {r.outcomes.length} span(s) from {r.module.name}" ::
      (r.backup.map fun path => s!"- Would back up to: {path.toString}").toList
  else if r.replaced then [s!"- Module rewritten; backup: {pathWord r.backup}"]
  else []

/-- The counts and warnings. -/
def statistics (r : Report) : List String :=
  ["", "**Stats:**", s!"- Extracted: {r.extractedCount}", s!"- Skipped: {r.skippedCount}"] ++
    r.moduleLines ++
    if r.allWarnings.isEmpty then []
    else "" :: "**Warnings:**" :: r.allWarnings.map ("- " ++ ·)

/-- The width that a target is shortened to, unless another is asked for. -/
def defaultWidth : Int := 80

/-- The report as Markdown. -/
def render (r : Report) (width : Int) : Except Error String := do
  let table ← r.table width
  let title := s!"**{r.module.name}**" ++ (if r.dryRun then " (dry run)" else "")
  return "\n".intercalate ([title, ""] ++ table ++ r.statistics)

end Report

end Unbundle
