import EngineHost.Proofs.Text.LowerCase
import Mathlib.Data.List.Forall2

/-!
# Variants of a text

A text in another case is a variant of it. Variants are related character by character, so they are
equally long, and a variant of a text that is put together is put together of variants of its parts.
A character that comes before the letters, such as a line feed or a digit, is a variant of itself
alone.

Main facts: `matchesCaseless_iff_sameLetter`, `caseVariant_equivalence`, `caseVariant_append_iff`.
-/

namespace EngineHost.Text

/-- The same character without regard to case: the lower cases are the same, or of one family. -/
def SameLetter (c d : Char) : Prop := Alike c.toNat d.toNat

/-- The same text without regard to case, character by character. -/
def CaseVariant (s t : String) : Prop := List.Forall₂ SameLetter s.toList t.toList

section

variable {c d : Char} {s t l : List Char}

theorem sameLetter_iff_caseKey : SameLetter c d ↔ caseKey c = caseKey d := by
  rw [caseKey_eq_keyCode, caseKey_eq_keyCode]
  exact alike_iff_keyCode

theorem sameCaseless_iff : sameCaseless c d = true ↔ SameLetter c d :=
  beq_iff_eq.trans sameLetter_iff_caseKey.symm

theorem forall₂_sameLetter_iff : List.Forall₂ SameLetter s t ↔ s.map caseKey = t.map caseKey := by
  have hletter : SameLetter = fun c d => caseKey c = caseKey d := by
    funext c d
    exact propext sameLetter_iff_caseKey
  rw [hletter, ← List.forall₂_eq_eq_eq, List.forall₂_map_left_iff, List.forall₂_map_right_iff]

theorem matchesCaseless_iff_sameLetter :
    matchesCaseless s t = true ↔ List.Forall₂ SameLetter s t :=
  matchesCaseless_iff.trans forall₂_sameLetter_iff.symm

/-- A variant of two texts after another is a variant of the one and then of the other. -/
theorem forall₂_append_left_iff :
    List.Forall₂ SameLetter (s ++ t) l ↔
      ∃ l₁ l₂, l = l₁ ++ l₂ ∧ List.Forall₂ SameLetter s l₁ ∧ List.Forall₂ SameLetter t l₂ := by
  constructor
  · intro h
    rw [forall₂_sameLetter_iff, List.map_append] at h
    obtain ⟨l₁, l₂, rfl, h₁, h₂⟩ := List.map_eq_append_iff.mp h.symm
    exact ⟨l₁, l₂, rfl, forall₂_sameLetter_iff.mpr h₁.symm, forall₂_sameLetter_iff.mpr h₂.symm⟩
  · rintro ⟨l₁, l₂, rfl, h₁, h₂⟩
    exact List.rel_append h₁ h₂

end

/-! ## Characters before the letters -/

theorem le_first_sub_offset : ∀ r ∈ caseRuns, 0x41 ≤ r.first - r.offset := by
  decide +kernel

theorem keyCode_eq_self_or_le (n : Nat) : keyCode n = n ∨ 0x41 ≤ keyCode n ∧ 0x41 ≤ n := by
  unfold keyCode
  split
  next r hfind =>
    have hmin := le_first_sub_offset r (List.mem_of_find?_eq_some hfind)
    have hn := List.find?_some hfind
    change r.stretch.covers n = true at hn
    have hfirst : r.first ≤ n := (Stretch.covers_iff.mp hn).1
    exact .inr ⟨by omega, by omega⟩
  next => exact .inl rfl

theorem SameLetter.eq_of_lt {c d : Char} (h : SameLetter c d) (hc : c.toNat < 0x41) : d = c := by
  have hkey : keyCode c.toNat = keyCode d.toNat := alike_iff_keyCode.mp h
  have hcode : d.toNat = c.toNat := by
    rcases keyCode_eq_self_or_le c.toNat with hc' | ⟨-, hc'⟩
    · rcases keyCode_eq_self_or_le d.toNat with hd | ⟨hd, -⟩
      · rw [← hc', ← hd, hkey]
      · omega
    · omega
  exact Char.toNat_inj.mp hcode

/-! ## Variants as a relation -/

variable {s t u s₁ s₂ t₁ t₂ : String}

theorem caseVariant_iff_caseKey :
    CaseVariant s t ↔ s.toList.map caseKey = t.toList.map caseKey :=
  forall₂_sameLetter_iff

theorem caseVariant_equivalence : Equivalence CaseVariant where
  refl _ := caseVariant_iff_caseKey.mpr rfl
  symm h := caseVariant_iff_caseKey.mpr (caseVariant_iff_caseKey.mp h).symm
  trans h h' := caseVariant_iff_caseKey.mpr
    ((caseVariant_iff_caseKey.mp h).trans (caseVariant_iff_caseKey.mp h'))

theorem CaseVariant.length_eq (h : CaseVariant s t) : s.length = t.length := by
  have hlength := List.Forall₂.length_eq h
  rwa [String.length_toList, String.length_toList] at hlength

/-- A variant of two texts put together is put together of their variants. -/
theorem exists_of_caseVariant_append (h : CaseVariant (s ++ t) u) :
    ∃ u₁ u₂, u = u₁ ++ u₂ ∧ CaseVariant s u₁ ∧ CaseVariant t u₂ := by
  rw [CaseVariant, String.toList_append] at h
  obtain ⟨l₁, l₂, hu, h₁, h₂⟩ := forall₂_append_left_iff.mp h
  refine ⟨String.ofList l₁, String.ofList l₂, ?_, ?_, ?_⟩
  · rw [← String.toList_inj, String.toList_append, String.toList_ofList, String.toList_ofList, hu]
  · rwa [CaseVariant, String.toList_ofList]
  · rwa [CaseVariant, String.toList_ofList]

/-- Texts that are put together are variants if their parts are, and only then if the first parts
are equally long. -/
theorem caseVariant_append_iff (h : s₁.length = t₁.length) :
    CaseVariant (s₁ ++ s₂) (t₁ ++ t₂) ↔ CaseVariant s₁ t₁ ∧ CaseVariant s₂ t₂ := by
  have hkeys : (s₁.toList.map caseKey).length = (t₁.toList.map caseKey).length := by
    rwa [List.length_map, List.length_map, String.length_toList, String.length_toList]
  simp only [caseVariant_iff_caseKey, String.toList_append, List.map_append]
  exact ⟨fun heq => List.append_inj heq hkeys, fun ⟨h₁, h₂⟩ => by rw [h₁, h₂]⟩

end EngineHost.Text
