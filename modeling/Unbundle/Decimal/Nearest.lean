import Unbundle.Decimal.Shortest

/-!
# Nearest binary numbers

The binary floating-point number nearest to an exact fraction; of two that are equally near, the one
with the even mantissa is taken. What is too large becomes infinite. Everything is worked out in
natural numbers, so no digit of a long decimal is lost. Whole and floating-point numbers are
compared exactly as well.
-/

namespace Unbundle.Decimal

/-- The fraction divided by `2 ^ k`. -/
def Ratio.halve (r : Ratio) (k : Int) : Ratio :=
  if 0 ≤ k then ⟨r.num, r.den * Nat.pow 2 k.toNat⟩ else ⟨r.num * Nat.pow 2 (-k).toNat, r.den⟩

/-- The whole number nearest to a fraction, the even one of two. -/
def Ratio.round (r : Ratio) : Nat :=
  let below := r.num / r.den
  let twice := 2 * (r.num % r.den)
  if twice < r.den || (twice == r.den && below % 2 == 0) then below else below + 1

/-- The exponent of the last bit that the number nearest to a positive fraction has. -/
def lastBit (r : Ratio) : Int :=
  let guess := (r.num.log2 : Int) - (r.den.log2 : Int) - 52
  max (-1074) (if (r.halve guess).ltNat (Nat.pow 2 52) then guess - 1 else guess)

/-- The 64 bits of positive infinity. -/
def infinityBits : Nat := 0x7ff * Nat.pow 2 52

/-- The 64 bits of the number nearest to a positive fraction. A mantissa that rounds up to the next
power of two carries into the exponent. -/
def nearestBits (r : Ratio) : Nat :=
  let last := lastBit r
  min infinityBits ((last + 1074).toNat * Nat.pow 2 52 + (r.halve last).round)

/-- The number nearest to `digits · 10 ^ exponent`. Powers far beyond the range are not worked
out. -/
def nearest (digits : Nat) (exponent : Int) : Float :=
  let lead := exponent + (Nat.toDigits 10 digits).length
  if digits = 0 || lead < -400 then 0.0
  else if 400 < lead then 1.0 / 0.0
  else Float.ofBits (UInt64.ofNat (nearestBits (Ratio.shift ⟨digits, 1⟩ (-exponent))))

/-- The order of a whole number and a floating-point number, unless the latter is no number. -/
def compareExact (n : Int) (x : Float) : Option Ordering :=
  let bits := x.toBits.toNat
  let negative := bits / Nat.pow 2 63 = 1
  let size := bits % Nat.pow 2 63
  if infinityBits < size then none
  else if size = infinityBits then some (if negative then .gt else .lt)
  else
    let b := Binary.ofBits size
    let m : Int := if negative then -b.mantissa else b.mantissa
    some (if 0 ≤ b.exponent then compare n (m * Int.pow 2 b.exponent.toNat)
      else compare (n * Int.pow 2 (-b.exponent).toNat) m)

end Unbundle.Decimal
