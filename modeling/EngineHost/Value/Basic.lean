import EngineHost.Number.Binary64

/-!
# Values

Engines and their callers hand over loosely typed values: a severity flag, a line number or an exit
code may be of any of these kinds. Nothing is checked when a value is handed over; each reader says
what it makes of every kind. Strings of bytes are not among the kinds, and an object that stands for
a path is the text of that path.
-/

namespace EngineHost

open EngineHost.Number

/-- A loosely typed value. -/
inductive Value where
  | null
  | bool (b : Bool)
  | int (n : Int)
  | real (x : Binary64)
  | text (s : String)
  | list (items : List Value)
deriving Repr, Inhabited

namespace Value

def kindName : Value → String
  | null => "NoneType"
  | bool _ => "bool"
  | int _ => "int"
  | real _ => "float"
  | text _ => "str"
  | list _ => "list"

/-- Does the value count as a yes? Null, false, the zeros and the empty text and list do not;
everything else does, nan too. -/
def isTruthy : Value → Bool
  | null => false
  | bool b => b
  | int n => n != 0
  | real x => !x.isZero
  | text s => !s.isEmpty
  | list items => !items.isEmpty

def text? : Value → Option String
  | text s => some s
  | _ => none

end Value

end EngineHost
