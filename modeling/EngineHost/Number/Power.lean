/-!
# Powers with integer exponents

A power whose exponent may be negative is a quotient of two natural numbers, one of which is 1:
`base ^ e = powerNum base e / powerDen base e`.
-/

namespace EngineHost.Number

/-- The numerator of `base ^ e`. -/
def powerNum (base : Nat) (e : Int) : Nat := Nat.pow base e.toNat

/-- The denominator of `base ^ e`. -/
def powerDen (base : Nat) (e : Int) : Nat := Nat.pow base (-e).toNat

theorem powerNum_neg (base : Nat) (e : Int) : powerNum base (-e) = powerDen base e := rfl

theorem powerDen_pos {base : Nat} (h : 0 < base) (e : Int) : 0 < powerDen base e :=
  Nat.pow_pos h

end EngineHost.Number
