import TraceText.Decimal.Binary64

/-!
# Rounded decimals are numbers of the format

A decimal fraction is rounded to a significand of 53 bits and an exponent that is not too small.  So
what does not become infinite is a finite number of the binary64 format.

## Main definitions

* `Binary64.IsFinite` — a finite number of the format

## Main results

* `Binary64.nearest_fits` — a rounded significand fits the format
* `Binary64.ofDecimal_cases` — a decimal fraction becomes finite or infinite
-/

namespace TraceText.Binary64

/-- A finite number of the format. -/
inductive IsFinite : Binary64 → Prop where
  | intro {negative : Bool} {significand : Nat} {exponent : Int}
      (hsignificand : significand < Nat.pow 2 53) (hlow : minExponent ≤ exponent)
      (hhigh : exponent ≤ maxExponent) : IsFinite (.finite negative significand exponent)

theorem divNearestEven_le (num den : Nat) : divNearestEven num den ≤ num / den + 1 := by
  unfold divNearestEven
  dsimp only
  split
  · omega
  · split <;> omega

/-- A quotient has few bits if it is scaled by an exponent that is large enough. -/
theorem scaled_div_lt {num den bits : Nat} {e : Int} (hden : den ≠ 0)
    (h : (num.log2 : Int) - den.log2 + 1 ≤ bits + e) :
    num * Nat.pow 2 (-e).toNat / (den * Nat.pow 2 e.toNat) < Nat.pow 2 bits := by
  have hscale : 0 < den * Nat.pow 2 e.toNat :=
    Nat.mul_pos (Nat.pos_of_ne_zero hden) (Nat.pow_pos (by decide))
  rw [Nat.div_lt_iff_lt_mul hscale]
  have hexponents : num.log2 + 1 + (-e).toNat ≤ bits + (den.log2 + e.toNat) := by omega
  calc num * 2 ^ (-e).toNat
      < 2 ^ (num.log2 + 1) * 2 ^ (-e).toNat :=
        Nat.mul_lt_mul_of_pos_right Nat.lt_log2_self (Nat.pow_pos (by decide))
    _ = 2 ^ (num.log2 + 1 + (-e).toNat) := (Nat.pow_add ..).symm
    _ ≤ 2 ^ (bits + (den.log2 + e.toNat)) := Nat.pow_le_pow_right (by decide) hexponents
    _ = 2 ^ bits * (2 ^ den.log2 * 2 ^ e.toNat) := by rw [Nat.pow_add, Nat.pow_add]
    _ ≤ 2 ^ bits * (den * 2 ^ e.toNat) :=
        Nat.mul_le_mul_left _ (Nat.mul_le_mul_right _ (Nat.log2_self_le hden))

/-- A rounded significand fits the format, and its exponent is not too small. -/
theorem nearest_fits (num : Nat) {den : Nat} (hden : den ≠ 0) :
    (nearest num den).1 < Nat.pow 2 53 ∧ minExponent ≤ (nearest num den).2 := by
  let scaledNum (e : Int) : Nat := num * Nat.pow 2 (-e).toNat
  let scaledDen (e : Int) : Nat := den * Nat.pow 2 e.toNat
  let low : Int := max minExponent ((num.log2 : Int) - den.log2 - 53)
  let exponent : Int :=
    if scaledNum low / scaledDen low < Nat.pow 2 53 then low else low + 1
  let significand : Nat := divNearestEven (scaledNum exponent) (scaledDen exponent)
  have hlow : minExponent ≤ exponent := by
    simp only [exponent, low]
    split <;> omega
  have hquotient : scaledNum exponent / scaledDen exponent < Nat.pow 2 53 := by
    simp only [exponent]
    split
    · assumption
    · -- with the next exponent there is one bit less
      apply scaled_div_lt hden
      simp only [low]
      omega
  have hrounded : significand ≤ scaledNum exponent / scaledDen exponent + 1 :=
    divNearestEven_le _ _
  have hnearest : nearest num den =
      if significand = Nat.pow 2 53 then (Nat.pow 2 52, exponent + 1)
      else (significand, exponent) := rfl
  rw [hnearest]
  split
  · have hhalf : Nat.pow 2 52 < Nat.pow 2 53 := by decide
    exact ⟨hhalf, Int.le_add_one hlow⟩
  · next hne => exact ⟨Nat.lt_of_le_of_ne (by omega) hne, hlow⟩

/-- A decimal fraction becomes a finite number of the format, or infinite. -/
theorem ofDecimal_cases (negative : Bool) (d : Nat) (e : Int) :
    (ofDecimal negative d e).IsFinite ∨ ofDecimal negative d e = .infinite negative := by
  unfold ofDecimal
  dsimp only
  split
  · exact .inl (.intro (by decide) (by decide) (by decide))
  split
  · exact .inr rfl
  have hden : Nat.pow 10 (-e).toNat ≠ 0 := Nat.ne_of_gt (Nat.pow_pos (by decide))
  obtain ⟨hsignificand, hlow⟩ := nearest_fits (d * Nat.pow 10 e.toNat) hden
  split
  · exact .inr rfl
  · next hhigh => exact .inl (.intro hsignificand hlow (Int.not_lt.mp hhigh))

end TraceText.Binary64
