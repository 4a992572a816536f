import EngineHost.Number.Numeral
import EngineHost.Proofs.Number.Digits
import Mathlib.Tactic.Ring

/-!
# Written integers read back

A written integer is a numeral that stands for it, with zeros after its sign or without, as long as
it has no more digits than a numeral may have. No numeral stands for an integer with more.

Main facts: `readInt?_paddedDigits`, `isSpellable_of_readInt?`, `head?_toDigits_eq_zero_iff` (only
zero is written with a zero in front).
-/

namespace EngineHost.Number

/-- The integer has no more digits than a numeral may have. -/
def IsSpellable (n : Int) : Prop := (Nat.toDigits 10 n.natAbs).length ≤ maxDigits

theorem isSpellable_iff_lt (n : Int) : IsSpellable n ↔ n.natAbs < 10 ^ maxDigits :=
  Nat.length_toDigits_le_iff (by decide) (by decide)

/-! ## Stretches of digits -/

theorem head?_toDigits_eq_zero_iff (n : Nat) : (Nat.toDigits 10 n).head? = some '0' ↔ n = 0 := by
  constructor
  · intro h
    induction n using Nat.strongRecOn with
    | ind n ih =>
      by_cases hn : n < 10
      · rw [Nat.toDigits_of_lt_base hn, List.head?_cons, Option.some.injEq] at h
        have hcode := congrArg Char.toNat h
        rw [Nat.toNat_digitChar_of_lt_ten hn] at hcode
        have hzero : '0'.toNat = 48 := rfl
        omega
      · -- The first digit is that of a tenth, which is not zero.
        rw [Nat.toDigits_of_base_le (by decide) (by omega),
          List.head?_append_of_ne_nil _ Nat.toDigits_ne_nil] at h
        have := ih (n / 10) (by omega) h
        omega
  · rintro rfl
    rfl

/-- A padded number begins with a zero only where it was filled up. -/
theorem length_zeroPad_of_head? {width n : Nat} (hwidth : 0 < width)
    (h : (zeroPad width (Nat.toDigits 10 n)).head? = some '0') :
    (zeroPad width (Nat.toDigits 10 n)).length = width := by
  rw [length_zeroPad]
  by_cases hlong : (Nat.toDigits 10 n).length ≤ width
  · omega
  · rw [zeroPad, Nat.sub_eq_zero_of_le (by omega), List.replicate_zero, List.nil_append,
      head?_toDigits_eq_zero_iff] at h
    subst h
    exact absurd hwidth (by simpa using hlong)

theorem ofDigitChars_lt {digits : List Char} (hdigits : ∀ c ∈ digits, c.isDigit = true)
    (init : Nat) : Nat.ofDigitChars 10 digits init < 10 ^ digits.length * (init + 1) := by
  induction digits generalizing init with
  | nil =>
    rw [Nat.ofDigitChars_nil, List.length_nil, Nat.pow_zero]
    omega
  | cons c digits ih =>
    rw [Nat.ofDigitChars_cons, List.length_cons, Nat.pow_succ]
    have hdigit : c.toNat - '0'.toNat ≤ 9 := by
      have := Char.isDigit_iff_toNat.mp (hdigits c List.mem_cons_self)
      have hnine : '9'.toNat = '0'.toNat + 9 := rfl
      omega
    calc Nat.ofDigitChars 10 digits (10 * init + (c.toNat - '0'.toNat))
        < 10 ^ digits.length * (10 * init + (c.toNat - '0'.toNat) + 1) :=
          ih (fun d hd => hdigits d (List.mem_cons_of_mem c hd)) _
      _ ≤ 10 ^ digits.length * (10 * (init + 1)) := Nat.mul_le_mul_left _ (by omega)
      _ = 10 ^ digits.length * 10 * (init + 1) := (Nat.mul_assoc _ _ _).symm

theorem ofDigitChars_zeroPad (width n : Nat) :
    Nat.ofDigitChars 10 (zeroPad width (Nat.toDigits 10 n)) 0 = n := by
  rw [zeroPad, Nat.ofDigitChars_append, Nat.ofDigitChars_replicate_zero, Nat.mul_zero,
    Nat.ofDigitChars_ten_toDigits]

/-! ## Digits of numerals -/

theorem digitRun?_of_isDigit {s : List Char} (hs : ∀ c ∈ s, c.isDigit = true) (afterDigit : Bool)
    (hne : afterDigit = true ∨ s ≠ []) : digitRun? afterDigit s = some s := by
  induction s generalizing afterDigit with
  | nil =>
    rcases hne with rfl | hne
    · rfl
    · exact absurd rfl hne
  | cons c s ih =>
    rw [digitRun?, if_pos (hs c List.mem_cons_self),
      ih (fun d hd => hs d (List.mem_cons_of_mem c hd)) true (.inl rfl)]
    rfl

theorem isDigit_of_mem_digitRun? {afterDigit : Bool} {s digits : List Char}
    (h : digitRun? afterDigit s = some digits) : ∀ c ∈ digits, c.isDigit = true := by
  induction s generalizing afterDigit digits with
  | nil =>
    cases afterDigit with
    | true =>
      cases h
      exact fun _ hc => absurd hc List.not_mem_nil
    | false => cases h
  | cons c s ih =>
    rw [digitRun?] at h
    split at h
    next hc =>
      obtain ⟨rest, hrest, rfl⟩ := Option.map_eq_some_iff.mp h
      exact List.forall_mem_cons.mpr ⟨hc, ih hrest⟩
    next =>
      split at h
      next => exact ih h
      next => cases h

theorem magnitude?_of_isDigit {s : List Char} (hs : ∀ c ∈ s, c.isDigit = true) (hne : s ≠ [])
    (hlength : s.length ≤ maxDigits) : magnitude? s = some (Nat.ofDigitChars 10 s 0) := by
  rw [magnitude?, digitRun?_of_isDigit hs false (.inr hne), Option.bind_some, if_pos hlength]

theorem lt_of_magnitude? {s : List Char} {n : Nat} (h : magnitude? s = some n) :
    n < 10 ^ maxDigits := by
  obtain ⟨digits, hdigits, hn⟩ := Option.bind_eq_some_iff.mp h
  split at hn
  next hlength =>
    cases hn
    calc Nat.ofDigitChars 10 digits 0
        < 10 ^ digits.length * (0 + 1) := ofDigitChars_lt (isDigit_of_mem_digitRun? hdigits) 0
      _ = 10 ^ digits.length := Nat.mul_one _
      _ ≤ 10 ^ maxDigits := Nat.pow_le_pow_right (by decide) hlength
  next => cases hn

/-! ## Numerals -/

theorem signed?_minus (s : List Char) :
    signed? ('-' :: s) = (magnitude? s).map fun n => -Int.ofNat n := by
  rw [signed?]
  cases magnitude? s <;> rfl

theorem isSpellable_of_signed? {s : List Char} {n : Int} (h : signed? s = some n) :
    IsSpellable n := by
  suffices hmagnitude : ∃ t, magnitude? t = some n.natAbs by
    obtain ⟨t, ht⟩ := hmagnitude
    exact (isSpellable_iff_lt n).mpr (lt_of_magnitude? ht)
  unfold signed? at h
  split at h
  next s =>
    change signed? ('-' :: s) = some n at h
    rw [signed?_minus] at h
    obtain ⟨m, hm, rfl⟩ := Option.map_eq_some_iff.mp h
    exact ⟨s, by rw [hm, Int.natAbs_neg]; rfl⟩
  next s =>
    obtain ⟨m, hm, rfl⟩ := Option.map_eq_some_iff.mp h
    exact ⟨s, hm⟩
  next =>
    obtain ⟨m, hm, rfl⟩ := Option.map_eq_some_iff.mp h
    exact ⟨s, hm⟩

theorem isSpellable_of_readInt? {s : List Char} {n : Int} (h : readInt? s = some n) :
    IsSpellable n := by
  obtain ⟨ascii, -, hsigned⟩ := Option.bind_eq_some_iff.mp h
  exact isSpellable_of_signed? hsigned

/-- The characters that a written integer is made of. -/
def IsNumberChar (c : Char) : Prop := c = '-' ∨ c.isDigit = true

theorem IsNumberChar.not_isPadding {c : Char} (h : IsNumberChar c) : isPadding c = false := by
  rcases h with rfl | h
  · decide
  · obtain ⟨hlow, -⟩ := Char.isDigit_iff_toNat.mp h
    have hzero : '0'.toNat = 48 := rfl
    have hspace : c ≠ ' ' := by
      rintro rfl
      exact absurd h (by decide)
    rw [isPadding, Bool.or_eq_false_iff, Bool.and_eq_false_iff, decide_eq_false_iff_not,
      decide_eq_false_iff_not, decide_eq_false_iff_not]
    exact ⟨hspace, .inr (by omega)⟩

theorem IsNumberChar.toNat_lt {c : Char} (h : IsNumberChar c) : c.toNat < 128 := by
  rcases h with rfl | h
  · decide
  · obtain ⟨-, hhigh⟩ := Char.isDigit_iff_toNat.mp h
    have hnine : '9'.toNat = 57 := rfl
    omega

theorem trim_eq_self {s : List Char} (hs : ∀ c ∈ s, isPadding c = false) : trim s = s := by
  have hkeep : ∀ t : List Char, (∀ c ∈ t, isPadding c = false) → t.dropWhile isPadding = t := by
    intro t ht
    cases t with
    | nil => rfl
    | cons c t =>
      rw [List.dropWhile_cons_of_neg]
      rw [ht c List.mem_cons_self]
      exact Bool.false_ne_true
  rw [trim, hkeep s hs, hkeep s.reverse fun c hc => hs c (List.mem_reverse.mp hc),
    List.reverse_reverse]

/-- Of a text in such characters nothing is changed or cut off before it is read. -/
theorem readInt?_of_isNumberChar {s : List Char} (hs : ∀ c ∈ s, IsNumberChar c) :
    readInt? s = signed? s := by
  have hascii : inAscii? s = some s := by
    rw [inAscii?, if_pos]
    rw [List.all_eq_true]
    exact fun c hc => decide_eq_true (hs c hc).toNat_lt
  rw [readInt?, hascii, Option.bind_some, trim_eq_self fun c hc => (hs c hc).not_isPadding]

theorem signed?_of_isDigit {s : List Char} (hs : ∀ c ∈ s, c.isDigit = true) :
    signed? s = (magnitude? s).map Int.ofNat := by
  unfold signed?
  split
  next => exact absurd (hs '-' List.mem_cons_self) (by decide)
  next => exact absurd (hs '+' List.mem_cons_self) (by decide)
  next => rfl

theorem magnitude?_zeroPad {width n : Nat} (hwidth : width ≤ maxDigits)
    (hn : (Nat.toDigits 10 n).length ≤ maxDigits) :
    magnitude? (zeroPad width (Nat.toDigits 10 n)) = some n := by
  have hdigits : ∀ c ∈ zeroPad width (Nat.toDigits 10 n), c.isDigit = true :=
    fun _ => isDigit_of_mem_zeroPad
  have hlength := length_zeroPad width (Nat.toDigits 10 n)
  have hpos : 0 < (Nat.toDigits 10 n).length := Nat.length_toDigits_pos
  rw [magnitude?_of_isDigit hdigits, ofDigitChars_zeroPad]
  · rw [← List.length_pos_iff]
    omega
  · omega

theorem isNumberChar_of_mem_paddedDigits {width : Nat} {n : Int} {c : Char}
    (h : c ∈ paddedDigits width n) : IsNumberChar c := by
  obtain ⟨sign, digits, hpadded, hsign, hdigits⟩ := exists_sign_paddedDigits width n
  rw [hpadded, List.mem_append] at h
  rcases h with h | h
  · rcases hsign with rfl | rfl
    · exact absurd h List.not_mem_nil
    · exact .inl (List.mem_singleton.mp h)
  · exact .inr (hdigits c h)

/-- An integer filled up with zeros is read as that integer. -/
theorem readInt?_paddedDigits {width : Nat} (hwidth : width ≤ maxDigits) {n : Int}
    (hn : IsSpellable n) : readInt? (paddedDigits width n) = some n := by
  rw [readInt?_of_isNumberChar fun _ => isNumberChar_of_mem_paddedDigits]
  cases n with
  | ofNat n =>
    have hmagnitude : magnitude? (zeroPad width (Nat.toDigits 10 n)) = some n :=
      magnitude?_zeroPad hwidth hn
    rw [paddedDigits, signed?_of_isDigit fun _ => isDigit_of_mem_zeroPad, hmagnitude]
    rfl
  | negSucc n =>
    -- The sign takes one of the places.
    have hmagnitude : magnitude? (zeroPad (width - 1) (Nat.toDigits 10 (n + 1))) = some (n + 1) :=
      magnitude?_zeroPad (by omega) hn
    rw [paddedDigits, signed?_minus, hmagnitude]
    rfl

end EngineHost.Number
