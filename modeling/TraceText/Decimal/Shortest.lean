import TraceText.Decimal.Binary64

/-!
# The shortest decimal that reads back

A binary64 number is written with the fewest decimal digits that read back as the same number,
and among decimals of that length with the one nearest to it.

## Main definitions

* `Decimal.Tie` — where a value half way between two candidates goes
* `Decimal.shortest` — digits and power of ten of a positive number `m · 2 ^ q`
* `Decimal.Layout` — which powers of ten are written out positionally
* `Decimal.Layout.write` — the text of a binary64 number
* `Decimal.positional`, `Decimal.compact` — the two layouts of this library
-/

namespace TraceText.Decimal

/-- Where a value half way between two candidates goes. -/
inductive Tie where
  | up
  | even
  deriving DecidableEq, Repr

/-- The least `k` with `num / den < 10 ^ (k + 1)`, for positive `num` and `den`. -/
def decade (num den : Nat) : Int :=
  let k : Int := ((digits num).length : Int) - (digits den).length
  if den * Nat.pow 10 k.toNat ≤ num * Nat.pow 10 (-k).toNat then k else k - 1

/-- The candidate on the grid of multiples of `10 ^ e` that reads back as `m · 2 ^ q`, if there is
one: the multiple just below or just above it.  Half the distance to the number above is two
quarters of `2 ^ q`; below a power of two the other half distance is one quarter. -/
def onGrid (tie : Tie) (m : Nat) (q e : Int) : Option Nat :=
  let num := m * Nat.pow 2 q.toNat * Nat.pow 10 (-e).toNat * 4
  let den := Nat.pow 2 (-q).toNat * Nat.pow 10 e.toNat * 4
  let quarter := num / (4 * m)
  let s := num / den
  let below := num % den
  let above := den - below
  -- the ends of the interval read back only if the significand is even
  let reads (distance quarters : Nat) : Bool :=
    distance < quarters * quarter || (m % 2 == 0 && distance == quarters * quarter)
  let down := reads below (if m = Nat.pow 2 52 then 1 else 2)
  let up := reads above 2
  match down, up with
  | false, false => none
  | true, false => some s
  | false, true => some (s + 1)
  | true, true =>
    -- both read back, so the nearer one is written
    if 2 * below < den then some s
    else if den < 2 * below then some (s + 1)
    else match tie with
      | .up => some (s + 1)
      | .even => some (s + s % 2)

/-- The same value with no zero at the end of its digits. -/
def stripZeros : Nat → Nat → Int → Nat × Int
  | 0, s, e => (s, e)
  | n + 1, s, e => if s % 10 = 0 ∧ s ≠ 0 then stripZeros n (s / 10) (e + 1) else (s, e)

/-- The fewest digits `s` and the power `e` such that `s · 10 ^ e` reads back as `m · 2 ^ q`, for a
positive significand `m`.  Seventeen digits are always enough. -/
def shortest (tie : Tie) (m : Nat) (q : Int) : Nat × Int :=
  let k := decade (m * Nat.pow 2 q.toNat) (Nat.pow 2 (-q).toNat)
  let found := (List.range 17).findSome? fun (i : Nat) =>
    (onGrid tie m q (k - i)).map fun s => (s, k - (i : Int))
  let (s, e) := found.getD (m, q)
  stripZeros 20 s e

/-- How digits and a power of ten become a text. -/
structure Layout where
  /-- Where a value half way between two shortest candidates goes. -/
  tie : Tie
  /-- Whether a number whose first digit has the weight `10 ^ (p - 1)` is written positionally. -/
  positional : Int → Bool

/-- Digits with a power of ten, written with a decimal point and at least one digit beside it. -/
def point (ds : Text) (e : Int) : Text :=
  if 0 ≤ e then ds ++ List.replicate e.toNat '0' ++ ['.', '0']
  else
    let places := (-e).toNat
    if places < ds.length then
      ds.take (ds.length - places) ++ '.' :: ds.drop (ds.length - places)
    else '0' :: '.' :: List.replicate (places - ds.length) '0' ++ ds

/-- An exponent with its sign. -/
def signed (e : Int) : Text := if 0 ≤ e then '+' :: ofInt e else ofInt e

/-- Digits with a power of ten, written with one digit before the point and an exponent. -/
def scientific (ds : Text) (e : Int) : Text :=
  let exponent := e + (ds.length - 1 : Nat)
  match ds with
  | d :: rest =>
    (if rest.isEmpty then [d] else d :: '.' :: rest) ++ 'e' :: signed exponent
  | [] => []

/-- The text of a binary64 number in a layout. -/
def Layout.write (layout : Layout) : Binary64 → Text
  | .nan => "NaN"
  | .infinite negative => if negative then "-inf" else "inf"
  | .finite negative m q =>
    let sign : Text := if negative then ['-'] else []
    if m = 0 then sign ++ "0.0"
    else
      let (s, e) := shortest layout.tie m q
      let ds := digits s
      sign ++ (if layout.positional (e + ds.length) then point ds e else scientific ds e)

/-- Every power of ten is written out, and a half goes up. -/
def positional : Layout := ⟨.up, fun _ => true⟩

/-- Numbers from `0.00001` to below `10 ^ 16` are written out, others with an exponent, and a half
goes to the even neighbour. -/
def compact : Layout := ⟨.even, fun p => -5 < p && p ≤ 16⟩

end TraceText.Decimal
