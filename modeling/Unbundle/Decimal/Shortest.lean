/-!
# Shortest decimals

A binary floating-point number is written with the fewest digits that read back as the same number;
of several such decimals the nearest is taken, and of two nearest the even one. Between 10⁻⁴ and
10¹⁶ the point is written in place, beyond that with an exponent.
-/

namespace Unbundle.Decimal

/-- A finite positive number, `mantissa · 2 ^ exponent`, with the gap below it half as wide as the
one above if `narrowBelow`. -/
structure Binary where
  mantissa : Nat
  exponent : Int
  narrowBelow : Bool

/-- The parts of a finite positive number in its 64 bits. -/
def Binary.ofBits (bits : Nat) : Binary :=
  let field : Nat := bits / Nat.pow 2 52 % 2048
  let fraction : Nat := bits % Nat.pow 2 52
  if field = 0 then ⟨fraction, -1074, false⟩
  else ⟨fraction + Nat.pow 2 52, (field : Int) - 1075, fraction = 0 && 1 < field⟩

/-- A fraction of natural numbers. -/
structure Ratio where
  num : Nat
  den : Nat

/-- `n · 2 ^ e` as a fraction. -/
def Ratio.scaled (n : Nat) (e : Int) : Ratio :=
  if 0 ≤ e then ⟨n * Nat.pow 2 e.toNat, 1⟩ else ⟨n, Nat.pow 2 (-e).toNat⟩

/-- The fraction divided by `10 ^ k`. -/
def Ratio.shift (r : Ratio) (k : Int) : Ratio :=
  if 0 ≤ k then ⟨r.num, r.den * Nat.pow 10 k.toNat⟩ else ⟨r.num * Nat.pow 10 (-k).toNat, r.den⟩

/-- Whether one fraction is less than a natural number. -/
def Ratio.ltNat (r : Ratio) (n : Nat) : Bool := r.num < n * r.den

/-- Whether a natural number is less than a fraction. -/
def Ratio.natLt (n : Nat) (r : Ratio) : Bool := n * r.den < r.num

/-- How many places a fraction below one must move before it reaches one. -/
def leadingPlaces : Nat → Ratio → Nat
  | 0, _ => 0
  | fuel + 1, r => if r.den ≤ r.num then 0 else 1 + leadingPlaces fuel ⟨r.num * 10, r.den⟩

/-- The power of ten just above a positive fraction. -/
def magnitude (r : Ratio) : Int :=
  if r.den ≤ r.num then (Nat.toDigits 10 (r.num / r.den)).length
  else 1 - (leadingPlaces 400 r : Int)

/-- The decimal `digits · 10 ^ exponent`. -/
structure Scientific where
  digits : Nat
  exponent : Int

/-- Looks for a decimal between `low` and `high`, ends included if `closed`, that has `count` digits
or more and is nearest to `value` among those with so many. -/
def search (value low high : Ratio) (closed : Bool) (top : Int) : Nat → Nat → Scientific
  | 0, count => ⟨value.num / value.den, count⟩
  | fuel + 1, count =>
    let k := top - count
    let value' := value.shift k
    let below := value'.num / value'.den
    let inside := fun n : Nat =>
      let low' := low.shift k
      let high' := high.shift k
      if closed then !(Ratio.natLt n low') && !(high'.ltNat n)
      else low'.ltNat n && Ratio.natLt n high'
    -- twice the distance from the lower neighbour, against the width of a step; a tie goes to the
    -- even neighbour
    let gap := 2 * (value'.num - below * value'.den)
    let nearerBelow := gap < value'.den || (gap == value'.den && below % 2 == 0)
    match inside below, inside (below + 1) with
    | true, true => ⟨if nearerBelow then below else below + 1, k⟩
    | true, false => ⟨below, k⟩
    | false, true => ⟨below + 1, k⟩
    | false, false => search value low high closed top fuel (count + 1)

/-- The shortest decimal that reads back as a positive number. -/
def shortest (b : Binary) : Scientific :=
  let scale := b.exponent - 2
  let value := Ratio.scaled (4 * b.mantissa) scale
  let low := Ratio.scaled (4 * b.mantissa - if b.narrowBelow then 1 else 2) scale
  let high := Ratio.scaled (4 * b.mantissa + 2) scale
  search value low high (b.mantissa % 2 = 0) (magnitude value) 20 1

/-- The digits of a number without the zeros at their end. -/
def significant (n : Nat) : List Char :=
  ((Nat.toDigits 10 n).reverse.dropWhile (· == '0')).reverse

/-- A positive decimal as text. -/
def Scientific.words (d : Scientific) : String :=
  let all := Nat.toDigits 10 d.digits
  let digits := significant d.digits
  -- the exponent of the first digit
  let lead := d.exponent + all.length - 1
  let text :=
    if lead < -4 || 16 ≤ lead then
      let size := Nat.toDigits 10 lead.natAbs
      digits.take 1 ++ (if digits.length = 1 then [] else '.' :: digits.drop 1) ++
        ['e', if lead < 0 then '-' else '+'] ++ List.replicate (2 - size.length) '0' ++ size
    else if lead < 0 then ['0', '.'] ++ List.replicate (lead.natAbs - 1) '0' ++ digits
    else
      let whole := lead.toNat + 1
      let padded := digits ++ List.replicate (whole - digits.length) '0'
      let fraction := padded.drop whole
      padded.take whole ++ '.' :: (if fraction.isEmpty then ['0'] else fraction)
  String.ofList text

/-- A number as text. -/
def render (x : Float) : String :=
  let bits := x.toBits.toNat
  let sign := if bits / Nat.pow 2 63 = 1 then "-" else ""
  let size := bits % Nat.pow 2 63
  if size = 0x7ff * Nat.pow 2 52 then sign ++ "inf"
  else if 0x7ff * Nat.pow 2 52 < size then "nan"
  else if size = 0 then sign ++ "0.0"
  else sign ++ (shortest (.ofBits size)).words

end Unbundle.Decimal
