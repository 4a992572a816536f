import EngineHost.Number.Binary64

/-!
# Shortest decimals

Of all decimals that round to a given positive binary64 number, the one with the fewest digits is
looked for; of several with that few digits, the nearest; of two equally near, the one with the
even last digit. All comparisons are between natural numbers.
-/

namespace EngineHost.Number

/-- A positive decimal, `coefficient · 10 ^ power`. -/
structure Decimal where
  coefficient : Nat
  power : Int
deriving DecidableEq, Repr

namespace Shortest

/-- Compare `c · 10 ^ k` with `x · 2 ^ e`. -/
def compareScaled (c : Nat) (k : Int) (x : Nat) (e : Int) : Ordering :=
  compare (c * powerNum 10 k * powerDen 2 e) (x * powerNum 2 e * powerDen 10 k)

/-- Does `c · 10 ^ k` round to `m · 2 ^ q`? The neighbours are half a step away, a quarter below a
power of two; a midpoint belongs to the even mantissa. -/
def roundsTo (m : Nat) (q : Int) (c : Nat) (k : Int) : Bool :=
  -- Distances are counted in quarters of a step, so that both midpoints are whole.
  let below := if m = Binary64.fullMantissa && q > Binary64.minExponent then 1 else 2
  let lower := compareScaled c k (4 * m - below) (q - 2)
  let upper := compareScaled c k (4 * m + 2) (q - 2)
  let even := m % 2 == 0
  (lower == .gt || (even && lower == .eq)) && (upper == .lt || (even && upper == .eq))

/-- The decimal on the grid of step `10 ^ k` that is best for `m · 2 ^ q`, if the grid has one that
rounds to it: only the two points around the value can. -/
def onGrid? (m : Nat) (q k : Int) : Option Decimal :=
  let num := m * powerNum 2 q * powerDen 10 k
  let den := powerDen 2 q * powerNum 10 k
  let low := num / den
  let lowHits := low > 0 && roundsTo m q low k
  let highHits := roundsTo m q (low + 1) k
  -- Twice the distance to the lower point, against the width of the grid.
  let twice := 2 * (num % den)
  let lowNearer := twice < den || (twice == den && low % 2 == 0)
  if lowHits && (!highHits || lowNearer) then some ⟨low, k⟩
  else if highHits then some ⟨low + 1, k⟩
  else none

/-- Try the grids from step `10 ^ k` downwards, `tries` of them. -/
def search (m : Nat) (q : Int) : (tries : Nat) → (k : Int) → Option Decimal
  | 0, _ => none
  | tries + 1, k => (onGrid? m q k).or (search m q tries (k - 1))

/-- A power of ten that is greater than `m · 2 ^ q`: three tenths and a little more of the binary
length, rounded up. -/
def startPower (m : Nat) (q : Int) : Int :=
  ((Nat.log2 m : Int) + 1 + q) * 30103 / 100000 + 1

end Shortest

/-- The shortest decimal of the number `m · 2 ^ q`; zero has none. Seventeen digits always tell two
numbers apart, so twenty grids are more than enough. -/
def shortest? (m : Nat) (q : Int) : Option Decimal :=
  if m = 0 then none else Shortest.search m q 20 (Shortest.startPower m q)

end EngineHost.Number
