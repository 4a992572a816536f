import EngineHost.Value.Basic

/-!
# Equality of values

Numbers are equal when their values are, whatever their kinds: `1`, `1.0` and true are equal, and so
are `0`, `-0.0` and false. Nan equals nothing. Texts equal only texts, lists only lists with equal
members in the same order.
-/

namespace EngineHost.Value

open EngineHost.Number

def ofBool (b : Bool) : Int := if b then 1 else 0

def equalsInt (n : Int) : Value → Bool
  | bool b => n == ofBool b
  | int m => n == m
  | real x => x.equalsInt n
  | _ => false

mutual

def equals : Value → Value → Bool
  | null, null => true
  | bool b, v => equalsInt (ofBool b) v
  | int n, v => equalsInt n v
  | real x, bool b => x.equalsInt (ofBool b)
  | real x, int n => x.equalsInt n
  | real x, real y => x.equals y
  | text s, text t => s == t
  | list xs, list ys => equalsList xs ys
  | _, _ => false

/-- Equality of lists of values, member by member. -/
def equalsList : List Value → List Value → Bool
  | [], [] => true
  | x :: xs, y :: ys => equals x y && equalsList xs ys
  | _, _ => false

end

def isZero (v : Value) : Bool := v.equals (int 0)

end EngineHost.Value
