import EngineHost.Number.Power

/-!
# Binary floating-point numbers of 64 bits

A finite number is a sign, a natural mantissa and a power of two. The functions here are exact:
rounding a quotient of natural numbers to the nearest number (ties to the even mantissa), cutting
the fraction off, and comparing values.
-/

namespace EngineHost.Number

/-- A number of binary64. The value of `finite` is `mantissa · 2 ^ exponent` with the sign in
front; zero has both signs. -/
inductive Binary64 where
  | nan
  | infinite (negative : Bool)
  | finite (negative : Bool) (mantissa : Nat) (exponent : Int)
deriving DecidableEq, Repr, Inhabited

namespace Binary64

/-- The least mantissa that is full; a full mantissa is less than twice as great. -/
def fullMantissa : Nat := 0x10000000000000

/-- The exponent of the least positive number. -/
def minExponent : Int := -1074

/-- The exponent of the greatest finite numbers. -/
def maxExponent : Int := 971

/-- The natural number nearest to `num / den`; of two, the even one. -/
def roundQuotient (num den : Nat) : Nat :=
  let quotient := num / den
  let remainder := num % den
  if 2 * remainder > den || (2 * remainder == den && quotient % 2 == 1) then quotient + 1
  else quotient

/-- `num` scaled by a power of two, over `den` scaled by the opposite power, so that both stay
natural numbers. -/
def scale (num den : Nat) (power : Int) : Nat × Nat :=
  (num * powerNum 2 power, den * powerDen 2 power)

/-- The greatest `e` with `2 ^ e ≤ num / den`. -/
def floorLog2 (num den : Nat) : Int :=
  let guess : Int := (Nat.log2 num : Int) - (Nat.log2 den : Int)
  let (scaledNum, scaledDen) := scale num den (-guess)
  if scaledDen ≤ scaledNum then guess else guess - 1

/-- The number nearest to `num / den`. -/
def ofRatio (negative : Bool) (num den : Nat) : Binary64 :=
  if num = 0 then .finite negative 0 minExponent
  else
    let exponent := max (floorLog2 num den - (Nat.log2 fullMantissa : Int)) minExponent
    let (scaledNum, scaledDen) := scale num den (-exponent)
    let mantissa := roundQuotient scaledNum scaledDen
    -- Rounding up may give a mantissa that is one bit too long.
    let (mantissa, exponent) :=
      if mantissa = 2 * fullMantissa then (fullMantissa, exponent + 1)
      else (mantissa, exponent)
    if exponent > maxExponent then .infinite negative else .finite negative mantissa exponent

/-- The integer that is left when the fraction is cut off; none for nan and the infinities. -/
def truncate? : Binary64 → Option Int
  | finite negative mantissa exponent =>
    let magnitude := mantissa * powerNum 2 exponent / powerDen 2 exponent
    some (if negative then -(magnitude : Int) else magnitude)
  | _ => none

/-- Is the number zero, of either sign? -/
def isZero : Binary64 → Bool
  | finite _ mantissa _ => mantissa == 0
  | _ => false

/-- The mantissa with its sign. -/
def signedMantissa (negative : Bool) (mantissa : Nat) : Int :=
  if negative then -(mantissa : Int) else mantissa

/-- Is `m · 2 ^ e` equal to `n · 2 ^ f`? -/
def sameScaled (m : Int) (e : Int) (n : Int) (f : Int) : Bool :=
  m * (powerNum 2 (e - f) : Int) == n * (powerNum 2 (f - e) : Int)

/-- Equality of values: nan equals nothing, and the two zeros are equal. -/
def equals : Binary64 → Binary64 → Bool
  | finite s m e, finite t n f => sameScaled (signedMantissa s m) e (signedMantissa t n) f
  | infinite s, infinite t => s == t
  | _, _ => false

def equalsInt : Binary64 → Int → Bool
  | finite s m e, n => sameScaled (signedMantissa s m) e n 0
  | _, _ => false

end Binary64

end EngineHost.Number
