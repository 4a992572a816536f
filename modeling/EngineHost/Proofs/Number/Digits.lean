import EngineHost.Number.IntText
import Mathlib.Data.List.Basic
import Mathlib.Data.List.TakeWhile

/-!
# Integers at the beginning of a text

The written form of an integer ends where its digits do. If a text begins with an integer and goes
on with something other than a digit, both the integer and what follows it can be told from the
text, whatever signs it holds further on.

Main facts: `append_inj_of_stretch` (a stretch of one class of characters is told from what comes
after it), `intDigits_append_inj`, `exists_sign_paddedDigits`.
-/

namespace EngineHost.Number

/-- The text is at its end, or goes on with a character that the class does not have. -/
def Ends (p : Char → Bool) (s : List Char) : Prop := ∀ c, s.head? = some c → p c = false

/-- A stretch of characters of one class is all that the class accepts at the beginning. -/
theorem takeWhile_append_of_ends {p : Char → Bool} {a s : List Char} (ha : ∀ c ∈ a, p c = true)
    (hs : Ends p s) : (a ++ s).takeWhile p = a := by
  rw [List.takeWhile_append_of_pos ha]
  cases s with
  | nil => rw [List.takeWhile_nil, List.append_nil]
  | cons c s =>
    have hc : ¬ p c = true := by
      rw [hs c rfl]
      exact Bool.false_ne_true
    rw [List.takeWhile_cons_of_neg hc, List.append_nil]

theorem append_inj_of_stretch {p : Char → Bool} {a b s t : List Char} (ha : ∀ c ∈ a, p c = true)
    (hb : ∀ c ∈ b, p c = true) (hs : Ends p s) (ht : Ends p t) (h : a ++ s = b ++ t) :
    a = b ∧ s = t := by
  have hab : a = b := by
    rw [← takeWhile_append_of_ends ha hs, h, takeWhile_append_of_ends hb ht]
  rw [hab] at h
  exact ⟨hab, List.append_cancel_left h⟩

theorem isDigit_of_mem_toDigits {n : Nat} {c : Char} (h : c ∈ Nat.toDigits 10 n) :
    c.isDigit = true :=
  Nat.isDigit_of_mem_toDigits (by omega) (by omega) h

theorem toDigits_append_inj {m n : Nat} {s t : List Char} (hs : Ends Char.isDigit s)
    (ht : Ends Char.isDigit t) (h : Nat.toDigits 10 m ++ s = Nat.toDigits 10 n ++ t) :
    m = n ∧ s = t := by
  obtain ⟨hdigits, hrest⟩ := append_inj_of_stretch (fun _ => isDigit_of_mem_toDigits)
    (fun _ => isDigit_of_mem_toDigits) hs ht h
  refine ⟨?_, hrest⟩
  -- The digits read back as the number.
  rw [← Nat.ofDigitChars_ten_toDigits (n := m), hdigits, Nat.ofDigitChars_ten_toDigits]

theorem toDigits_append_ne_minus (n : Nat) (s t : List Char) :
    Nat.toDigits 10 n ++ s ≠ '-' :: t := by
  intro h
  obtain ⟨d, ds, hd⟩ := List.exists_cons_of_ne_nil (Nat.toDigits_ne_nil (n := n) (b := 10))
  have hdigit : d.isDigit = true := isDigit_of_mem_toDigits (hd ▸ List.mem_cons_self)
  rw [hd, List.cons_append, List.cons.injEq] at h
  rw [h.1] at hdigit
  exact absurd hdigit (by decide)

theorem intDigits_append_inj {m n : Int} {s t : List Char} (hs : Ends Char.isDigit s)
    (ht : Ends Char.isDigit t) (h : intDigits m ++ s = intDigits n ++ t) : m = n ∧ s = t := by
  cases m with
  | ofNat m =>
    cases n with
    | ofNat n =>
      obtain ⟨hmn, hst⟩ := toDigits_append_inj hs ht h
      exact ⟨congrArg Int.ofNat hmn, hst⟩
    | negSucc n => exact absurd h (toDigits_append_ne_minus m s _)
  | negSucc m =>
    cases n with
    | ofNat n => exact absurd h.symm (toDigits_append_ne_minus n t _)
    | negSucc n =>
      obtain ⟨hmn, hst⟩ := toDigits_append_inj hs ht (List.cons.inj h).2
      exact ⟨congrArg Int.negSucc (Nat.succ.inj hmn), hst⟩

/-! ## Padded numbers -/

theorem isDigit_of_mem_zeroPad {width n : Nat} {c : Char}
    (h : c ∈ zeroPad width (Nat.toDigits 10 n)) : c.isDigit = true := by
  rw [zeroPad, List.mem_append] at h
  rcases h with h | h
  · rw [List.eq_of_mem_replicate h]
    decide
  · exact isDigit_of_mem_toDigits h

/-- A padded number is digits after a sign at most. -/
theorem exists_sign_paddedDigits (width : Nat) (n : Int) :
    ∃ sign digits, paddedDigits width n = sign ++ digits ∧ (sign = [] ∨ sign = ['-']) ∧
      ∀ c ∈ digits, c.isDigit = true := by
  cases n with
  | ofNat n =>
    exact ⟨[], _, rfl, .inl rfl, fun _ => isDigit_of_mem_zeroPad⟩
  | negSucc n =>
    exact ⟨['-'], _, rfl, .inr rfl, fun _ => isDigit_of_mem_zeroPad⟩

end EngineHost.Number
