import EngineHost.Number.RealText
import EngineHost.Proofs.Number.Reading

/-!
# Representable numbers

A mantissa of a number of binary64 has at most 53 bits, and the exponent has bounds. Every number
that is read from a text is rounded to these limits, and they leave every integer that a number is cut
off to far fewer digits than a numeral may have.

Main facts: `isRepresentable_ofRatio`, `isRepresentable_of_ofText?`, `isSpellable_of_truncate?`.
-/

namespace EngineHost.Number

/-! ## Powers -/

theorem powerDen_two_pos (e : Int) : 0 < powerDen 2 e := powerDen_pos (by decide) e

theorem powerDen_neg (base : Nat) (e : Int) : powerDen base (-e) = powerNum base e := by
  rw [powerDen, powerNum, Int.neg_neg]

/-- Raising the exponent by `k` multiplies the quotient by `2 ^ k`. -/
theorem powerNum_add_mul_powerDen (e : Int) (k : Nat) :
    powerNum 2 (e + k) * powerDen 2 e = 2 ^ k * powerNum 2 e * powerDen 2 (e + k) := by
  show 2 ^ (e + k).toNat * 2 ^ (-e).toNat = 2 ^ k * 2 ^ e.toNat * 2 ^ (-(e + k)).toNat
  rw [← Nat.pow_add, ← Nat.pow_add, ← Nat.pow_add]
  congr 1
  omega

/-- The rational number `num / den` is less than `2 ^ e`. -/
def RatioBelow (num den : Nat) (e : Int) : Prop := num * powerDen 2 e < den * powerNum 2 e

theorem RatioBelow.lt_mul {num den k : Nat} {e : Int} (h : RatioBelow num den (e + k)) :
    num * powerDen 2 e < 2 ^ k * (den * powerNum 2 e) := by
  refine Nat.lt_of_mul_lt_mul_right (a := powerDen 2 (e + k)) ?_
  calc num * powerDen 2 e * powerDen 2 (e + k)
      = num * powerDen 2 (e + k) * powerDen 2 e := Nat.mul_right_comm _ _ _
    _ < den * powerNum 2 (e + k) * powerDen 2 e :=
        Nat.mul_lt_mul_of_pos_right h (powerDen_two_pos e)
    _ = 2 ^ k * (den * powerNum 2 e) * powerDen 2 (e + k) := by
        rw [Nat.mul_assoc, powerNum_add_mul_powerDen]
        ring

theorem RatioBelow.mono {num den : Nat} {e f : Int} (h : RatioBelow num den e) (hef : e ≤ f) :
    RatioBelow num den f := by
  obtain ⟨k, rfl⟩ := Int.le.dest hef
  refine Nat.lt_of_mul_lt_mul_right (a := powerDen 2 e) ?_
  calc num * powerDen 2 (e + k) * powerDen 2 e
      = num * powerDen 2 e * powerDen 2 (e + k) := Nat.mul_right_comm _ _ _
    _ < den * powerNum 2 e * powerDen 2 (e + k) :=
        Nat.mul_lt_mul_of_pos_right h (powerDen_two_pos (e + k))
    _ ≤ 2 ^ k * (den * powerNum 2 e * powerDen 2 (e + k)) :=
        Nat.le_mul_of_pos_left _ (Nat.pow_pos (by decide))
    _ = den * powerNum 2 (e + k) * powerDen 2 e := by
        rw [Nat.mul_assoc den (powerNum 2 (e + k)), powerNum_add_mul_powerDen]
        ring

namespace Binary64

/-- The number has a mantissa of at most 53 bits and an exponent within the bounds. -/
def IsRepresentable : Binary64 → Prop
  | finite _ mantissa exponent =>
    mantissa < 2 * fullMantissa ∧ minExponent ≤ exponent ∧ exponent ≤ maxExponent
  | _ => True

/-! ## Rounding -/

theorem ratioBelow_floorLog2 (num : Nat) {den : Nat} (hden : den ≠ 0) :
    RatioBelow num den (floorLog2 num den + 1) := by
  unfold floorLog2 scale
  dsimp only
  split
  · -- The binary lengths alone bound the quotient.
    have hnum : num < 2 ^ (num.log2 + 1) := Nat.lt_log2_self
    have hden : 2 ^ den.log2 ≤ den := Nat.log2_self_le hden
    generalize num.log2 = a at hnum ⊢
    generalize den.log2 = b at hden ⊢
    show num * 2 ^ (-((a : Int) - b + 1)).toNat < den * 2 ^ ((a : Int) - b + 1).toNat
    calc num * 2 ^ (-((a : Int) - b + 1)).toNat
        < 2 ^ (a + 1) * 2 ^ (-((a : Int) - b + 1)).toNat :=
          Nat.mul_lt_mul_of_pos_right hnum (Nat.pow_pos (by decide))
      _ = 2 ^ b * 2 ^ ((a : Int) - b + 1).toNat := by
          rw [← Nat.pow_add, ← Nat.pow_add]
          congr 1
          omega
      _ ≤ den * 2 ^ ((a : Int) - b + 1).toNat := Nat.mul_le_mul_right _ hden
  next hless =>
    rw [Int.sub_add_cancel]
    rw [powerDen_neg] at hless
    exact Nat.lt_of_not_le hless

theorem roundQuotient_le (num den : Nat) : roundQuotient num den ≤ num / den + 1 := by
  unfold roundQuotient
  dsimp only
  split
  · exact Nat.le_refl _
  · exact Nat.le_succ _

theorem roundQuotient_le_twice_full {num den : Nat} {e : Int}
    (h : RatioBelow num den (e + 53)) :
    roundQuotient (num * powerNum 2 (-e)) (den * powerDen 2 (-e)) ≤ 2 * fullMantissa := by
  have hlt : num * powerNum 2 (-e) < den * powerDen 2 (-e) * (2 * fullMantissa) := by
    rw [powerDen_neg, Nat.mul_comm _ (2 * fullMantissa)]
    exact h.lt_mul
  calc roundQuotient (num * powerNum 2 (-e)) (den * powerDen 2 (-e))
      ≤ num * powerNum 2 (-e) / (den * powerDen 2 (-e)) + 1 := roundQuotient_le _ _
    _ ≤ 2 * fullMantissa := Nat.div_lt_of_lt_mul hlt

/-- Every number that comes from rounding is representable. -/
theorem isRepresentable_ofRatio (negative : Bool) (num : Nat) {den : Nat} (hden : den ≠ 0) :
    (ofRatio negative num den).IsRepresentable := by
  unfold ofRatio scale
  dsimp only
  split
  · exact ⟨by decide, by decide, by decide⟩
  have hlog : (Nat.log2 fullMantissa : Int) = 52 := by decide
  rw [hlog]
  have hexponent : minExponent ≤ max (floorLog2 num den - 52) minExponent := Int.le_max_right _ _
  have hmantissa := roundQuotient_le_twice_full
    ((ratioBelow_floorLog2 num hden).mono
      (f := max (floorLog2 num den - 52) minExponent + 53) (by omega))
  generalize max (floorLog2 num den - 52) minExponent = exponent at hexponent hmantissa ⊢
  generalize roundQuotient _ _ = mantissa at hmantissa ⊢
  have hwithin : ∀ m e, m < 2 * fullMantissa → minExponent ≤ e →
      (if e > maxExponent then infinite negative else finite negative m e).IsRepresentable := by
    intro m e hm he
    split
    next => trivial
    next hmax => exact ⟨hm, he, Int.not_lt.mp hmax⟩
  split
  next => exact hwithin fullMantissa (exponent + 1) (by decide) (by omega)
  next hfits => exact hwithin mantissa exponent (by omega) hexponent

theorem isRepresentable_of_unsigned? {negative : Bool} {s : List Char} {x : Binary64}
    (h : RealText.unsigned? negative s = some x) : x.IsRepresentable := by
  unfold RealText.unsigned? at h
  split at h
  · cases h
    trivial
  split at h
  · cases h
    trivial
  -- With a point or without, what is left is a decimal to be rounded.
  dsimp only at h
  split at h
  all_goals
    split at h
    · cases h
    · obtain ⟨e, -, rfl⟩ := Option.map_eq_some_iff.mp h
      exact isRepresentable_ofRatio negative _ (Nat.ne_of_gt (powerDen_pos (by decide) _))

theorem isRepresentable_of_ofText? {text : String} {x : Binary64} (h : ofText? text = some x) :
    x.IsRepresentable := by
  unfold ofText? at h
  split at h
  all_goals exact isRepresentable_of_unsigned? h

/-! ## Cutting off -/

theorem isSpellable_of_truncate? {x : Binary64} (hx : x.IsRepresentable) {n : Int}
    (h : x.truncate? = some n) : IsSpellable n := by
  cases x with
  | nan => cases h
  | infinite negative => cases h
  | finite negative mantissa exponent =>
    obtain ⟨hmantissa, -, hexponent⟩ := hx
    have hmagnitude : n.natAbs = mantissa * powerNum 2 exponent / powerDen 2 exponent := by
      cases h
      cases negative
      · rfl
      · exact Int.natAbs_neg _
    have hpower : powerNum 2 exponent ≤ 2 ^ maxExponent.toNat :=
      Nat.pow_le_pow_right (by decide) (Int.toNat_le_toNat hexponent)
    have hdigits : 53 + maxExponent.toNat ≤ maxDigits := by
      show 53 + 971 ≤ 4300
      omega
    have hbits : mantissa < 2 ^ 53 := hmantissa
    generalize maxExponent.toNat = limit at hpower hdigits
    rw [isSpellable_iff_lt, hmagnitude]
    calc mantissa * powerNum 2 exponent / powerDen 2 exponent
        ≤ mantissa * powerNum 2 exponent := Nat.div_le_self _ _
      _ < 2 ^ 53 * 2 ^ limit :=
          Nat.mul_lt_mul_of_lt_of_le hbits hpower (Nat.pow_pos (by decide))
      _ = 2 ^ (53 + limit) := (Nat.pow_add _ _ _).symm
      _ ≤ 2 ^ maxDigits := Nat.pow_le_pow_right (by decide) hdigits
      _ ≤ 10 ^ maxDigits := Nat.pow_le_pow_left (by decide) _

end Binary64

end EngineHost.Number
