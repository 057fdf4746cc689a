import Unbundle.Text.Blank

/-!
# Collapsing blank rows

A run of three or more blank rows becomes one, and blanks around the text go. Rows that are
protected are never blank, whatever they hold.
-/

namespace Unbundle.BlankRows

/-- A row of a text, without its line feed. -/
abbrev Row := List Char

/-- The least length of a run that collapses. -/
def longRun : Nat := 3

/-- What is left of a run of blank rows: a long run becomes one row, with a carriage return if the
first of them ended in one. -/
def settle (run : List Row) : List Row :=
  if longRun ≤ run.length then
    match run.head?.bind List.getLast? with
    | some '\r' => [['\r']]
    | _ => [[]]
  else run

/-- Whether row number `i` is kept as it is: it is protected, or not blank. -/
def isKept (guarded : List Nat) (i : Nat) (row : Row) : Bool :=
  guarded.contains i || !row.all Text.isBlank

/-- The rows from number `i` on, when the blank rows of `run` stand before them. -/
def tidyFrom (guarded : List Nat) : Nat → List Row → List Row → List Row
  | _, run, [] => settle run
  | i, run, row :: rest =>
    if isKept guarded i row then settle run ++ row :: tidyFrom guarded (i + 1) [] rest
    else tidyFrom guarded (i + 1) (run ++ [row]) rest

/-- The rows from number `i` on, when no row has been kept yet. -/
def tidy (guarded : List Nat) : Nat → List Row → List Row
  | _, [] => []
  | i, row :: rest =>
    if isKept guarded i row then row :: tidyFrom guarded (i + 1) [] rest
    else tidy guarded (i + 1) rest

/-- The text with its runs of blank rows collapsed; the rows numbered in `guarded`, from zero, are
protected. -/
def collapse (text : String) (guarded : List Nat) : String :=
  String.ofList (Text.trimEnd (Text.joinRows (tidy guarded 0 (Text.rows text.toList))))

end Unbundle.BlankRows
