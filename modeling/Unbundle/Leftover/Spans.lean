import Unbundle.Error

/-!
# Removing spans

Spans are ranges of bytes, the end excluded. They are taken out from the last to the first, so that
the offsets of those still to come stay valid. Spans must lie inside the data and must not overlap.
-/

namespace Unbundle

/-- A range of byte offsets, the end excluded. -/
structure Span where
  start : Int
  stop : Int
  deriving DecidableEq, Repr

namespace Span

/-- The spans by descending start; those with one start keep their order. -/
def descending (spans : List Span) : List Span := spans.mergeSort fun a b => b.start ≤ a.start

/-- Takes spans with descending starts out of `data`, which had `size` bytes at first; `floor` is
the start of the span taken out last. -/
def removeFrom (size : Nat) (floor : Int) (data : Bytes) : List Span → Except Error Bytes
  | [] => .ok data
  | s :: rest =>
    if !(0 ≤ s.start && s.start ≤ s.stop && s.stop ≤ size) then
      .error (.invalid (.spanOutside s.start s.stop size))
    else if floor < s.stop then .error (.invalid (.spanOverlap s.start s.stop floor))
    else removeFrom size s.start (data.take s.start.toNat ++ data.drop s.stop.toNat) rest

/-- The data without the bytes in the spans. -/
def remove (data : Bytes) (spans : List Span) : Except Error Bytes :=
  removeFrom data.length (data.length + 1) data (descending spans)

end Span

end Unbundle
