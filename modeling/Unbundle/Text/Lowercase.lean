import Unbundle.Text.CaseTable

/-!
# Lower case

Full lower-casing of a text. Most characters have one counterpart; U+0130 becomes two characters,
and a capital sigma becomes the final form when a cased letter stands before it and none after it,
characters without case being passed over.
-/

namespace Unbundle.Text

/-- The lower-case counterpart of a character that has exactly one. -/
def lowerChar (c : Char) : Char :=
  let n := c.toNat
  if n < 0x80 then
    if 0x41 ≤ n && n ≤ 0x5a then Char.ofNat (n + 32) else c
  else
    match findRange (fun s : CaseShift => (s.first, s.last)) lowerShifts n 0 lowerShifts.size with
    | some s => if (n - s.first) % s.step = 0 then Char.ofNat (n + s.shift).toNat else c
    | none => c

/-- Whether the first character that is not passed over is a cased letter. -/
def cased (cs : List Char) : Bool :=
  match cs.dropWhile fun c => covers caseIgnorableRanges c.toNat with
  | [] => false
  | c :: _ => covers casedRanges c.toNat

/-- The lower case of `c` between the characters `before`, nearest first, and `after`. -/
def lowerAt (before : List Char) (c : Char) (after : List Char) : List Char :=
  if c = 'İ' then ['i', '̇']
  else if c = 'Σ' then [if cased before && !cased after then 'ς' else 'σ']
  else [lowerChar c]

/-- The lower case of a text that stands behind the characters `before`, nearest first. -/
def lowerFrom (before : List Char) : List Char → List Char
  | [] => []
  | c :: after => lowerAt before c after ++ lowerFrom (c :: before) after

/-- The lower case of a list of characters. -/
def lowerChars (cs : List Char) : List Char := lowerFrom [] cs

/-- The lower case of a text. -/
def lower (text : String) : String := String.ofList (lowerChars text.toList)

end Unbundle.Text
