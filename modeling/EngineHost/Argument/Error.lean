import EngineHost.Value.Basic

/-!
# Unusable arguments

An argument vector is a loosely typed value. Two things can be wrong with it: it is not a sequence,
or an entry that has to be looked at is not a text.
-/

namespace EngineHost

/-- What is wrong with an argument vector, with the offending kind of value. -/
inductive ArgumentError where
  | notSequence (kind : String)
  | notText (kind : String)
deriving DecidableEq, Repr

namespace ArgumentError

def message : ArgumentError → String
  | notSequence kind => "'" ++ kind ++ "' object is not iterable"
  | notText kind => "expected string or bytes-like object, got '" ++ kind ++ "'"

end ArgumentError

/-- The entries of a sequence: a list has its items, a text its characters. -/
def Value.entries : Value → Except ArgumentError (List Value)
  | .list items => .ok items
  | .text s => .ok (s.toList.map fun c => .text (String.singleton c))
  | v => .error (.notSequence v.kindName)

def Value.expectText (v : Value) : Except ArgumentError String :=
  match v with
  | .text s => .ok s
  | v => .error (.notText v.kindName)

end EngineHost
