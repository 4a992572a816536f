import EngineHost.Value.Equality
import EngineHost.Value.Integer

/-!
# Values equal to zero

Three kinds of value have members that are equal to zero: integers, truth values and reals of either
sign. Each of these members stands for the integer zero. The converse does not hold: a text may
spell zero and a fraction is cut off to zero, and neither is equal to it.

Main facts: `Value.isZero_iff`, `Value.EqualsZero.toInt?_eq`.
-/

namespace EngineHost

/-- The value is a number equal to zero. -/
inductive Value.EqualsZero : Value → Prop
  | int : EqualsZero (.int 0)
  | bool : EqualsZero (.bool false)
  | real (negative : Bool) (exponent : Int) : EqualsZero (.real (.finite negative 0 exponent))

namespace Number.Binary64

theorem equalsInt_zero_iff (x : Binary64) :
    x.equalsInt 0 = true ↔ ∃ negative exponent, x = .finite negative 0 exponent := by
  cases x with
  | nan => simp [equalsInt]
  | infinite negative => simp [equalsInt]
  | finite negative mantissa exponent =>
    -- Scaling by a power of two makes no zero.
    have hpower : (powerNum 2 exponent : Int) ≠ 0 := by
      have hpos : 0 < powerDen 2 (-exponent) := powerDen_pos (by decide) (-exponent)
      rw [← powerNum_neg, Int.neg_neg] at hpos
      omega
    have hsigned : signedMantissa negative mantissa = 0 ↔ mantissa = 0 := by
      unfold signedMantissa
      split <;> omega
    simp only [equalsInt, sameScaled, Int.sub_zero, Int.zero_mul, beq_iff_eq, Int.mul_eq_zero,
      hpower, or_false, hsigned]
    constructor
    · rintro rfl
      exact ⟨negative, exponent, rfl⟩
    · rintro ⟨_, _, h⟩
      cases h
      rfl

end Number.Binary64

namespace Value

theorem isZero_iff (v : Value) : v.isZero = true ↔ v.EqualsZero := by
  constructor
  · intro h
    cases v with
    | bool b =>
      cases b with
      | false => exact .bool
      | true => simp [isZero, equals, equalsInt, ofBool] at h
    | int n =>
      simp only [isZero, equals, equalsInt, beq_iff_eq] at h
      subst h
      exact .int
    | real x =>
      simp only [isZero, equals] at h
      obtain ⟨negative, exponent, rfl⟩ := x.equalsInt_zero_iff.mp h
      exact .real negative exponent
    | _ => simp [isZero, equals] at h
  · intro h
    cases h with
    | int => simp [isZero, equals, equalsInt]
    | bool => simp [isZero, equals, equalsInt, ofBool]
    | real negative exponent =>
      simp only [isZero, equals]
      exact (Number.Binary64.equalsInt_zero_iff _).mpr ⟨negative, exponent, rfl⟩

theorem EqualsZero.toInt?_eq {v : Value} (h : v.EqualsZero) : v.toInt? = some 0 := by
  cases h with
  | int => rfl
  | bool => rfl
  | real negative exponent =>
    -- No power of two makes anything of a mantissa that is zero.
    cases negative <;> simp [toInt?, Number.Binary64.truncate?]

end Value

end EngineHost
