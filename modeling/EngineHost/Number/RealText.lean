import EngineHost.Number.Shortest

/-!
# Decimal text of binary64 numbers

The text of a number has the shortest digits that read back. It is positional when the exponent of
the leading digit is from −4 to 15, with `.0` after a whole number; otherwise one digit stands
before the point and the exponent follows with its sign and at least two digits. Reading accepts a
sign, digits with an optional point, and an optional exponent.
-/

namespace EngineHost.Number

structure RealFormat where
  /-- The least exponent of the leading digit that is written positionally. -/
  leastPositional : Int
  /-- The first exponent that is too great for positional writing. -/
  positionalLimit : Int
  /-- The least number of digits of an exponent. -/
  exponentWidth : Nat
  nan : String
  infinity : String
deriving Repr

def RealFormat.standard : RealFormat :=
  { leastPositional := -4, positionalLimit := 16, exponentWidth := 2, nan := "nan",
    infinity := "inf" }

def zeros (count : Nat) : List Char := List.replicate count '0'

/-- The digits without an exponent: the point stands `point` digits after the first. -/
def positional (digits : List Char) (point : Int) : List Char :=
  if point ≤ 0 then '0' :: '.' :: (zeros (-point).toNat ++ digits)
  else
    let whole := digits.take point.toNat
    let fraction := digits.drop point.toNat
    whole ++ zeros (point.toNat - digits.length) ++
      '.' :: (if fraction.isEmpty then ['0'] else fraction)

/-- One digit, the others after a point, and the exponent. -/
def scientific (width : Nat) (digits : List Char) (exponent : Int) : List Char :=
  let fraction := digits.drop 1
  let sign := if exponent < 0 then '-' else '+'
  let exponentDigits := Nat.toDigits 10 exponent.natAbs
  digits.take 1 ++ (if fraction.isEmpty then [] else '.' :: fraction) ++
    'e' :: sign :: (zeros (width - exponentDigits.length) ++ exponentDigits)

def Decimal.write (format : RealFormat) (d : Decimal) : List Char :=
  let digits := Nat.toDigits 10 d.coefficient
  let point := digits.length + d.power
  if format.leastPositional ≤ point - 1 && point - 1 < format.positionalLimit then
    positional digits point
  else scientific format.exponentWidth digits (point - 1)

def Binary64.write (format : RealFormat) : Binary64 → List Char
  | .nan => format.nan.toList
  | .infinite negative => (if negative then ['-'] else []) ++ format.infinity.toList
  | .finite negative m q =>
    (if negative then ['-'] else []) ++
      match shortest? m q with
      | some d => d.write format
      | none => positional ['0'] 1

def Binary64.text (x : Binary64) : String := String.ofList (x.write .standard)

namespace RealText

/-- The leading decimal digits and what follows them. -/
def takeDigits (s : List Char) : List Char × List Char :=
  (s.takeWhile Char.isDigit, s.dropWhile Char.isDigit)

/-- A signed exponent after its mark, to the end of the text. -/
def exponent? (s : List Char) : Option Int :=
  let (negative, rest) :=
    match s with
    | '-' :: rest => (true, rest)
    | '+' :: rest => (false, rest)
    | rest => (false, rest)
  if rest.isEmpty || !rest.all Char.isDigit then none
  else
    let n : Int := Nat.ofDigitChars 10 rest 0
    some (if negative then -n else n)

/-- The number nearest to `coefficient · 10 ^ power`. -/
def ofDecimal (negative : Bool) (coefficient : Nat) (power : Int) : Binary64 :=
  .ofRatio negative (coefficient * powerNum 10 power) (powerDen 10 power)

def unsigned? (negative : Bool) (s : List Char) : Option Binary64 :=
  if s = "inf".toList then some (.infinite negative)
  else if s = "nan".toList then some .nan
  else
    let (whole, rest) := takeDigits s
    let (fraction, rest) :=
      match rest with
      | '.' :: rest => takeDigits rest
      | rest => ([], rest)
    let digits := whole ++ fraction
    if digits.isEmpty then none
    else
      let exponent : Option Int :=
        match rest with
        | [] => some 0
        | mark :: rest => if mark = 'e' || mark = 'E' then exponent? rest else none
      exponent.map fun e =>
        ofDecimal negative (Nat.ofDigitChars 10 digits 0) (e - (fraction.length : Int))

end RealText

def Binary64.ofText? (text : String) : Option Binary64 :=
  match text.toList with
  | '-' :: s => RealText.unsigned? true s
  | '+' :: s => RealText.unsigned? false s
  | s => RealText.unsigned? false s

end EngineHost.Number
