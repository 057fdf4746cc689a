/-!
# Tables of code points

A property of characters is kept as an ascending table of ranges and looked up by halving.
-/

namespace Unbundle.Text

/-- The first and the last code point of a range, both included. -/
abbrev CodeRange := Nat × Nat

/-- Looks for `cp` among the entries of `table` from `lo` up to `hi`, where `bounds` gives the first
and last code point of an entry and the entries ascend. -/
def findRange {α : Type} (bounds : α → CodeRange) (table : Array α) (cp lo hi : Nat) : Option α :=
  if lo < hi then
    let mid := lo + (hi - lo) / 2
    match table[mid]? with
    | none => none
    | some entry =>
      if cp < (bounds entry).1 then findRange bounds table cp lo mid
      else if (bounds entry).2 < cp then findRange bounds table cp (mid + 1) hi
      else some entry
  else none
termination_by hi - lo

/-- Whether a code point lies in one of the ranges of an ascending table. -/
def covers (table : Array CodeRange) (cp : Nat) : Bool :=
  (findRange id table cp 0 table.size).isSome

end Unbundle.Text
