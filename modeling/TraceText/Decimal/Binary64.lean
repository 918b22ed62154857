import TraceText.Decimal.Basic

/-!
# Double precision numbers

The values of the IEEE 754 format binary64, kept exactly: a finite number is a sign, a natural
significand and a power of two.  Reading a decimal fraction rounds it to the nearest of them.

## Main definitions

* `Binary64` — finite numbers, the two infinities and the numbers that are none
* `Binary64.ofBits` — the number that a 64-bit word encodes
* `Binary64.ofDecimal` — the number nearest to `d · 10 ^ e`, ties going to the even significand
-/

namespace TraceText

/-- A binary64 number.  A finite one is `± significand · 2 ^ exponent`, where the significand is
below `2 ^ 53` and the exponent lies between `-1074` and `971`. -/
inductive Binary64 where
  | finite (negative : Bool) (significand : Nat) (exponent : Int)
  | infinite (negative : Bool)
  | nan
  deriving DecidableEq, Repr, Inhabited

namespace Binary64

/-- The least exponent, which the subnormal numbers share with the smallest normal ones. -/
def minExponent : Int := -1074

/-- The exponent of the largest finite numbers. -/
def maxExponent : Int := 971

/-- The number that a word encodes: one sign bit, eleven exponent bits, 52 fraction bits. -/
def ofBits (word : UInt64) : Binary64 :=
  let n := word.toNat
  let negative := decide (Nat.pow 2 63 ≤ n)
  let exponent : Nat := n / Nat.pow 2 52 % Nat.pow 2 11
  let fraction : Nat := n % Nat.pow 2 52
  if exponent = 2047 then
    if fraction = 0 then .infinite negative else .nan
  else if exponent = 0 then .finite negative fraction minExponent
  else .finite negative (Nat.pow 2 52 + fraction) ((exponent : Int) - 1075)

/-- The quotient of two natural numbers rounded to the nearest integer, a tie to the even one. -/
def divNearestEven (num den : Nat) : Nat :=
  let q := num / den
  let r := num % den
  if 2 * r < den then q
  else if den < 2 * r then q + 1
  else q + q % 2

/-- The significand and exponent nearest to `num / den`, both positive, before the exponent is
compared with its upper bound. -/
def nearest (num den : Nat) : Nat × Int :=
  let scaled (e : Int) : Nat × Nat := (num * Nat.pow 2 (-e).toNat, den * Nat.pow 2 e.toNat)
  let low : Int := max minExponent ((num.log2 : Int) - den.log2 - 53)
  let (a, b) := scaled low
  let exponent := if a / b < Nat.pow 2 53 then low else low + 1
  let (a, b) := scaled exponent
  let significand := divNearestEven a b
  if significand = Nat.pow 2 53 then (Nat.pow 2 52, exponent + 1) else (significand, exponent)

/-- The number nearest to `d · 10 ^ e` with the given sign.  What is too large becomes infinite.
A power of ten is only formed where the result is neither certainly zero nor certainly infinite.

This rounds once.  A reader that rounds the digits and the power of ten apart, and their product
again, may be off by a unit in the last place, as for 0.9452706955539223. -/
def ofDecimal (negative : Bool) (d : Nat) (e : Int) : Binary64 :=
  let magnitude := e + (Decimal.digits d).length
  if d = 0 ∨ magnitude < -330 then .finite negative 0 minExponent
  else if 310 < magnitude then .infinite negative
  else
    let (significand, exponent) := nearest (d * Nat.pow 10 e.toNat) (Nat.pow 10 (-e).toNat)
    if maxExponent < exponent then .infinite negative else .finite negative significand exponent

end Binary64

end TraceText
