import EngineHost.Text.Blank
import EngineHost.Text.Digit

/-!
# Reading an integer

A numeral is an optional sign and decimal digits, with at most one underscore between two digits,
between blanks that do not count. A text of ASCII characters alone may be padded with the space and
the five layout controls only; a text with any other character may also be padded with the blanks
beyond ASCII, and its digits may be those of any script, even mixed. A numeral of more than 4300
digits is refused.
-/

namespace EngineHost.Number

open EngineHost.Text

/-- The most digits that a numeral may have, leading zeros included. -/
def maxDigits : Nat := 4300

/-- The blanks that may surround a numeral in ASCII: the space and the controls from tab to
carriage return. -/
def isPadding (c : Char) : Bool := c = ' ' || (9 ≤ c.toNat && c.toNat ≤ 13)

/-- One character in ASCII, if it has a form there: blanks are spaces and digits are `0` to `9`. -/
def asciiForm? (c : Char) : Option Char :=
  if c.toNat < 127 then some c
  else if isBlank c then some ' '
  else (digitValue? c).map Nat.digitChar

/-- A text in ASCII; one that is in ASCII already is not looked at. -/
def inAscii? (s : List Char) : Option (List Char) :=
  if s.all (·.toNat < 128) then some s else s.mapM asciiForm?

def trim (s : List Char) : List Char :=
  ((s.dropWhile isPadding).reverse.dropWhile isPadding).reverse

/-- The digits of a numeral without its sign. `afterDigit` says that a digit stands just before, so
that an underscore or the end may follow. -/
def digitRun? : (afterDigit : Bool) → List Char → Option (List Char)
  | true, [] => some []
  | false, [] => none
  | afterDigit, c :: rest =>
    if c.isDigit then (digitRun? true rest).map (c :: ·)
    else if c = '_' && afterDigit then digitRun? false rest
    else none

/-- The natural number that the rest of a numeral after its sign stands for. -/
def magnitude? (s : List Char) : Option Nat :=
  (digitRun? false s).bind fun digits =>
    if digits.length ≤ maxDigits then some (Nat.ofDigitChars 10 digits 0) else none

def signed? : List Char → Option Int
  | '-' :: s => (magnitude? s).map fun n => -(n : Int)
  | '+' :: s => (magnitude? s).map Int.ofNat
  | s => (magnitude? s).map Int.ofNat

def readInt? (s : List Char) : Option Int :=
  (inAscii? s).bind fun ascii => signed? (trim ascii)

end EngineHost.Number
