import EngineHost.Number.Numeral
import EngineHost.Value.Basic

/-!
# The integer that a value stands for

Integers stand for themselves, truth values for 0 and 1, reals for what is left when the fraction is
cut off, and texts for the integer they spell. Everything else stands for none.
-/

namespace EngineHost.Value

open EngineHost.Number

def toInt? : Value → Option Int
  | bool b => some (if b then 1 else 0)
  | int n => some n
  | real x => x.truncate?
  | text s => readInt? s.toList
  | null => none
  | list _ => none

/-- The integer that a value stands for, or zero. -/
def toIntOrZero (v : Value) : Int := v.toInt?.getD 0

end EngineHost.Value
