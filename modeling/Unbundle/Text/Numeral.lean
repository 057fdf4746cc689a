import Unbundle.Text.Blank
import Unbundle.Text.Letter
import Unbundle.Text.WordTable

/-!
# Numerals

Numbers written out in a text. The decimal digits of every script count as digits, and the blanks of
every script may stand around a number; `plain` brings both to their ASCII form, and then a number
is read from ASCII characters alone.
-/

namespace Unbundle.Text

/-- Hexadecimal digits. -/
def isHexDigit (c : Char) : Bool :=
  c.isDigit || (0x41 ≤ c.toNat && c.toNat ≤ 0x46) || (0x61 ≤ c.toNat && c.toNat ≤ 0x66)

/-- The value of a digit in a base up to sixteen. -/
def digitValue (c : Char) : Nat :=
  if c.isDigit then c.toNat - 0x30 else if 0x61 ≤ c.toNat then c.toNat - 0x57 else c.toNat - 0x37

/-- The number that digits spell in a base. -/
def digitsValue (base : Nat) (cs : List Char) : Nat :=
  cs.foldl (fun n c => n * base + digitValue c) 0

/-- How many decimal digits a whole number may have that is read from a text or written as one. -/
def digitLimit : Nat := 4300

/-- A text as numbers are read from it: blanks are spaces, digits are ASCII digits, and the first
letter beyond ASCII that is neither ends it with a mark that no number has. -/
def plainNumeral : Letters → List Char
  | [] => []
  | .half _ :: _ => ['?']
  | .char c :: rest =>
    if c.toNat < 0x7f then c :: plainNumeral rest
    else if isBlank c then ' ' :: plainNumeral rest
    else match digitOf? c with
      | some n => Nat.digitChar n :: plainNumeral rest
      | none => ['?']

/-- The blanks that may stand around a number. -/
def isNumeralGap (c : Char) : Bool := c == ' ' || (0x09 ≤ c.toNat && c.toNat ≤ 0x0d)

/-- A number without the blanks around it. -/
def trimNumeral (cs : List Char) : List Char :=
  ((cs.dropWhile isNumeralGap).reverse.dropWhile isNumeralGap).reverse

/-- Takes a sign from a text: whether it is negative, and the rest. -/
def takeSign : List Char → Bool × List Char
  | '-' :: rest => (true, rest)
  | '+' :: rest => (false, rest)
  | cs => (false, cs)

/-- A number with a sign. -/
def signed (negative : Bool) (n : Int) : Int := if negative then -n else n

/-- Why a text is no whole number. -/
inductive NumeralFlaw
  /-- It is not written as one. -/
  | notNumber
  /-- It has too many digits. -/
  | tooLong (digits : Nat)
  deriving DecidableEq, Repr

/-- Digits of a base without a mark of the base in front of them. -/
def dropBaseMark (base : Nat) : List Char → List Char
  | '0' :: mark :: rest =>
    let marks :=
      if base = 2 then ['b', 'B']
      else if base = 8 then ['o', 'O']
      else if base = 16 then ['x', 'X']
      else []
    if marks.contains mark then rest else '0' :: mark :: rest
  | cs => cs

/-- Reads a whole number to a base; blanks around it and a sign are allowed. In base ten the digits
are counted before what follows them is looked at. -/
def integer (base : Nat) (text : Letters) : Except NumeralFlaw Int :=
  let (negative, body) := takeSign (trimNumeral (plainNumeral text))
  let body := dropBaseMark base body
  let isDigit := fun (c : Char) => isHexDigit c && digitValue c < base
  let digits := body.takeWhile isDigit
  if base = 10 && digitLimit < digits.length then .error (.tooLong digits.length)
  else if digits.isEmpty || digits.length < body.length then .error .notNumber
  else .ok (signed negative (digitsValue base digits))

end Unbundle.Text
