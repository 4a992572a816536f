import EngineHost.Diagnostic.Normal
import EngineHost.Proofs.Number.Representable

/-!
# Codes

A code is two letters and a number in at least four places, the sign included. The number can be read
back, so a code tells for which integer it stands, however many digits that has. A value without an
integer has no code.

In a line a code ends where its own characters do: it holds neither blanks nor colons.

Main facts: `isCode_settle`, `IsCode.blank_not_mem`, `IsCode.colon_not_mem`, `formatCode_eq_iff`,
`formatCode_spells`.
-/

namespace EngineHost

open EngineHost.Number EngineHost.Text

/-- What stands in the place of a code: nothing, or the letters and a number with a sign at most.
The digits of the number may be those of any script. -/
def IsCode (code : String) : Prop :=
  code = "" ∨ ∃ sign digits, code.toList = codeLetters.toList ++ (sign ++ digits) ∧
    (sign = [] ∨ sign = ['-'] ∨ sign = ['+']) ∧ ∀ c ∈ digits, (digitValue? c).isSome = true

theorem digitValue?_isSome_of_isDigit {c : Char} (h : c.isDigit = true) :
    (digitValue? c).isSome = true := by
  obtain ⟨hlow, hhigh⟩ := Char.isDigit_iff_toNat.mp h
  have hzero : '0'.toNat = 48 := rfl
  have hnine : '9'.toNat = 57 := rfl
  rw [digitValue?, Option.isSome_map, List.find?_isSome]
  refine ⟨0x30, List.mem_cons_self, ?_⟩
  rw [Bool.and_eq_true, decide_eq_true_eq, decide_eq_true_eq]
  omega

theorem isCode_formatCode (v : Value) : IsCode (formatCode v) := by
  unfold formatCode
  cases v.toInt? with
  | none => exact .inl rfl
  | some n =>
    obtain ⟨sign, digits, hpadded, hsign, hdigits⟩ := exists_sign_paddedDigits codeWidth n
    right
    refine ⟨sign, digits, ?_, ?_, fun c hc => digitValue?_isSome_of_isDigit (hdigits c hc)⟩
    · rw [String.toList_append, String.toList_ofList, hpadded]
    · rcases hsign with hsign | hsign
      · exact .inl hsign
      · exact .inr (.inl hsign)

theorem IsCode.not_mem {code : String} (h : IsCode code) {c : Char}
    (hletters : c ∉ codeLetters.toList) (hminus : c ≠ '-') (hplus : c ≠ '+')
    (hdigit : digitValue? c = none) : c ∉ code.toList := by
  obtain rfl | ⟨sign, digits, hcode, hsign, hdigits⟩ := h
  · exact List.not_mem_nil
  rw [hcode, List.mem_append, List.mem_append]
  rintro (hc | hc | hc)
  · exact hletters hc
  · rcases hsign with rfl | rfl | rfl
    · exact List.not_mem_nil hc
    · exact hminus (List.mem_singleton.mp hc)
    · exact hplus (List.mem_singleton.mp hc)
  · have hsome := hdigits c hc
    rw [hdigit] at hsome
    contradiction

theorem IsCode.blank_not_mem {code : String} (h : IsCode code) : ' ' ∉ code.toList :=
  h.not_mem (by decide) (by decide) (by decide) (by decide)

theorem IsCode.colon_not_mem {code : String} (h : IsCode code) : ':' ∉ code.toList :=
  h.not_mem (by decide) (by decide) (by decide) (by decide)

/-! ## Codes and integers -/

namespace Value

/-- The integer of the value is not too long for a numeral. Only integers themselves can be; a real
is representable and thereby short enough. -/
def IsSpellable : Value → Prop
  | int n => Number.IsSpellable n
  | real x => x.IsRepresentable
  | _ => True

theorem IsSpellable.of_toInt? {v : Value} (hv : v.IsSpellable) {n : Int}
    (h : v.toInt? = some n) : Number.IsSpellable n := by
  cases v with
  | int m =>
    cases h
    exact hv
  | real x => exact Binary64.isSpellable_of_truncate? hv h
  | text s => exact isSpellable_of_readInt? h
  | bool b =>
    cases h
    cases b
    · show (Nat.toDigits 10 0).length ≤ 4300
      decide
    · show (Nat.toDigits 10 1).length ≤ 4300
      decide
  | null => cases h
  | list items => cases h

end Value

/-- A text that writes an integer as codes do: in four places or, where its digits and sign need
more, in as many as they need; filled up with zeros in front of the digits. -/
structure IsCodeNumber (t : String) (n : Int) : Prop where
  length : t.length = max 4 (intText n).length
  shape : ∃ sign digits, t.toList = sign ++ digits ∧ (sign = [] ∨ sign = ['-']) ∧
    (∀ c ∈ digits, c.isDigit = true) ∧ (digits.head? = some '0' → t.length = 4)
  readsBack : (Value.text t).toInt? = some n

theorem isCodeNumber_paddedDigits {n : Int} (hn : Number.IsSpellable n) :
    IsCodeNumber (String.ofList (paddedDigits codeWidth n)) n where
  length := by
    rw [String.length_ofList, length_paddedDigits, intText, String.length_ofList]
    rfl
  shape := by
    rw [String.toList_ofList, String.length_ofList]
    cases n with
    | ofNat n =>
      exact ⟨[], _, rfl, .inl rfl, fun _ => isDigit_of_mem_zeroPad,
        length_zeroPad_of_head? (by decide)⟩
    | negSucc n =>
      -- The sign takes one of the four places.
      refine ⟨['-'], _, rfl, .inr rfl, fun _ => isDigit_of_mem_zeroPad, fun hzero => ?_⟩
      rw [paddedDigits, List.length_cons, length_zeroPad_of_head? (by decide) hzero]
      rfl
  readsBack := by
    show readInt? (String.ofList _).toList = some n
    rw [String.toList_ofList]
    exact readInt?_paddedDigits (by decide) hn

theorem formatCode_of_toInt? {v : Value} {n : Int} (h : v.toInt? = some n) :
    formatCode v = "FS" ++ String.ofList (paddedDigits codeWidth n) := by
  rw [formatCode, h]
  rfl

theorem formatCode_eq_empty_iff (v : Value) : formatCode v = "" ↔ v.toInt? = none := by
  constructor
  · intro h
    cases hv : v.toInt? with
    | none => rfl
    | some n =>
      rw [formatCode_of_toInt? hv, String.append_eq_empty_iff] at h
      exact absurd h.1 (by decide)
  · intro h
    rw [formatCode, h]

/-- Values have the same code exactly if they stand for the same integer, or all for none. -/
theorem formatCode_eq_iff {v w : Value} (hv : v.IsSpellable) (hw : w.IsSpellable) :
    formatCode v = formatCode w ↔ v.toInt? = w.toInt? := by
  constructor
  · intro h
    cases hn : v.toInt? with
    | none =>
      rw [(formatCode_eq_empty_iff v).mpr hn, eq_comm, formatCode_eq_empty_iff] at h
      rw [h]
    | some n =>
      cases hm : w.toInt? with
      | none =>
        rw [(formatCode_eq_empty_iff w).mpr hm, formatCode_eq_empty_iff, hn] at h
        cases h
      | some m =>
        rw [formatCode_of_toInt? hn, formatCode_of_toInt? hm] at h
        have ht := String.append_right_inj _ |>.mp h
        rw [← (isCodeNumber_paddedDigits (hv.of_toInt? hn)).readsBack, ht,
          (isCodeNumber_paddedDigits (hw.of_toInt? hm)).readsBack]
  · intro h
    rw [formatCode, formatCode, h]

/-- A value has a code exactly if it stands for an integer. The code is two letters and that integer
in at least four places, from which it can be read back; so different integers have different codes,
however great they are. No code holds a blank or a colon. -/
theorem formatCode_spells (v : Value) (hv : v.IsSpellable) :
    (formatCode v = "" ↔ v.toInt? = none) ∧
    (∀ n, v.toInt? = some n → ∃ t, formatCode v = "FS" ++ t ∧ IsCodeNumber t n) ∧
    (∀ n m : Int, Number.IsSpellable n → Number.IsSpellable m →
      (formatCode (.int n) = formatCode (.int m) ↔ n = m)) ∧
    ' ' ∉ (formatCode v).toList ∧ ':' ∉ (formatCode v).toList := by
  refine ⟨formatCode_eq_empty_iff v, ?_, ?_, (isCode_formatCode v).blank_not_mem,
    (isCode_formatCode v).colon_not_mem⟩
  · intro n hn
    exact ⟨_, formatCode_of_toInt? hn, isCodeNumber_paddedDigits (hv.of_toInt? hn)⟩
  · intro n m hn hm
    rw [formatCode_eq_iff (v := .int n) (w := .int m) hn hm]
    exact Option.some_inj

/-- A number with a fraction, or the nearest there is to it. -/
def unevenNumber : Value := .real ((Binary64.ofText? "-123456.789").getD .nan)

theorem formatCode_spells_uneven :
    unevenNumber.IsSpellable ∧ unevenNumber.toInt? = some (-123456) ∧
      ∃ t, formatCode unevenNumber = "FS" ++ t ∧ IsCodeNumber t (-123456) := by
  have hspellable : unevenNumber.IsSpellable := by
    show ((Binary64.ofText? "-123456.789").getD .nan).IsRepresentable
    cases hread : Binary64.ofText? "-123456.789" with
    | none => trivial
    | some x => exact Binary64.isRepresentable_of_ofText? hread
  have hinteger : unevenNumber.toInt? = some (-123456) := by decide +kernel
  exact ⟨hspellable, hinteger,
    (formatCode_spells unevenNumber hspellable).2.1 (-123456) hinteger⟩

/-- The sign counts for one of the four places, whatever digits and blanks the number came with. -/
example : formatCode (.text "\u00a0-1_٢\u2003") = "FS-012" := by decide

end EngineHost
