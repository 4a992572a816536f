import EngineHost.Proofs.Argument.Switches
import EngineHost.Proofs.Text.CaseVariant

/-!
# Spellings of a switch

A text spells a switch if it is a variant of the name, character by character, whatever characters
the name is made of. A slash and two dashes mark a switch alike, and nothing else does. So spelling
is an equivalence between texts of one length, and it may be looked at piece by piece.

Main facts: `spells_iff_caseVariant`, `exists_spells_of_accepts`, `spells_by_letters`.
-/

namespace EngineHost.Switch

open EngineHost.Text

/-- The switch of that name is given by the text after a slash. -/
def Spells (name text : String) : Prop := (Switch.mk name).accepts ("/" ++ text) = true

/-- The argument is the text after one of the two marks. -/
def IsMarked (text arg : String) : Prop := arg = "/" ++ text ∨ arg = "--" ++ text

variable {name text text' arg : String} {s s' : Switch}

theorem body?_of_isMarked (h : IsMarked text arg) : body? arg.toList = some text.toList := by
  rcases h with rfl | rfl <;> rw [String.toList_append] <;> rfl

theorem isMarked_of_body? (h : Switch.body? arg.toList = some text.toList) : IsMarked text arg := by
  simp only [IsMarked, ← String.toList_inj, String.toList_append]
  exact body?_eq_some_iff.mp h

/-- An argument is no more than one text after a mark. -/
theorem IsMarked.eq (h : IsMarked text arg) (h' : IsMarked text' arg) : text = text' := by
  have hbody := (body?_of_isMarked h).symm.trans (body?_of_isMarked h')
  exact String.toList_inj.mp (Option.some.inj hbody)

/-- Both marks are alike. -/
theorem accepts_iff_of_isMarked (h : IsMarked text arg) :
    (Switch.mk name).accepts arg = true ↔ CaseVariant name text := by
  rw [accepts, body?_of_isMarked h]
  exact matchesCaseless_iff_sameLetter

theorem spells_iff_caseVariant : Spells name text ↔ CaseVariant name text :=
  accepts_iff_of_isMarked (.inl rfl)

theorem spells_iff_dashes : Spells name text ↔ (Switch.mk name).accepts ("--" ++ text) = true :=
  spells_iff_caseVariant.trans (accepts_iff_of_isMarked (.inr rfl)).symm

/-- Whatever a switch accepts is a spelling of its name after a mark. -/
theorem exists_spells_of_accepts (h : s.accepts arg = true) :
    ∃ text, IsMarked text arg ∧ Spells s.name text := by
  cases hbody : body? arg.toList with
  | none =>
    rw [accepts, hbody] at h
    contradiction
  | some body =>
    rw [← String.toList_ofList (l := body)] at hbody
    have hmarked := isMarked_of_body? hbody
    exact ⟨String.ofList body, hmarked,
      spells_iff_caseVariant.mpr ((accepts_iff_of_isMarked hmarked).mp h)⟩

theorem length_eq_of_spells (h : Spells name text) : name.length = text.length :=
  (spells_iff_caseVariant.mp h).length_eq

/-- Switches that accept one argument have names of one length. -/
theorem length_name_eq_of_accepts (h : s.accepts arg = true) (h' : s'.accepts arg = true) :
    s.name.length = s'.name.length := by
  obtain ⟨text, hmarked, hspells⟩ := exists_spells_of_accepts h
  obtain ⟨text', hmarked', hspells'⟩ := exists_spells_of_accepts h'
  obtain rfl := hmarked.eq hmarked'
  exact (length_eq_of_spells hspells).trans (length_eq_of_spells hspells').symm

/-- A text after a slash spells a switch exactly if it is the name without regard to case, character
by character, as lower cases and families have it, and exactly if it does so after two dashes.
Spelling is reflexive, symmetric and transitive; it relates texts of one length only, and texts put
together exactly if it relates their parts, where the first parts are equally long. A switch accepts
nothing but a spelling of its name after one of the two marks, so no argument is both of the display
switches. -/
theorem spells_by_letters :
    (∀ s t, Spells s t ↔ List.Forall₂ SameLetter s.toList t.toList) ∧
    (∀ s t, Spells s t ↔ (Switch.mk s).accepts ("--" ++ t) = true) ∧
    (∀ s, Spells s s) ∧
    (∀ s t, Spells s t → Spells t s) ∧
    (∀ s t u, Spells s t → Spells t u → Spells s u) ∧
    (∀ s t, Spells s t → s.length = t.length) ∧
    (∀ s₁ s₂ t₁ t₂, s₁.length = t₁.length →
      (Spells (s₁ ++ s₂) (t₁ ++ t₂) ↔ Spells s₁ t₁ ∧ Spells s₂ t₂)) ∧
    (∀ s arg, (Switch.mk s).accepts arg = true →
      ∃ t, (arg = "/" ++ t ∨ arg = "--" ++ t) ∧ Spells s t) ∧
    ∀ arg, ¬ (errorRanges.accepts arg = true ∧ editorErrors.accepts arg = true) := by
  have hequiv := caseVariant_equivalence
  refine ⟨fun _ _ => spells_iff_caseVariant, fun _ _ => spells_iff_dashes, ?_, ?_, ?_,
    fun _ _ => length_eq_of_spells, ?_, fun _ _ => exists_spells_of_accepts, ?_⟩
  · exact fun s => spells_iff_caseVariant.mpr (hequiv.refl s)
  · intro s t h
    exact spells_iff_caseVariant.mpr (hequiv.symm (spells_iff_caseVariant.mp h))
  · intro s t u hst htu
    exact spells_iff_caseVariant.mpr
      (hequiv.trans (spells_iff_caseVariant.mp hst) (spells_iff_caseVariant.mp htu))
  · intro s₁ s₂ t₁ t₂ hlength
    simp only [spells_iff_caseVariant]
    exact caseVariant_append_iff hlength
  · rintro arg ⟨hranges, heditor⟩
    have hlength := length_name_eq_of_accepts hranges heditor
    revert hlength
    decide

/-- A dot in the name is no other character; the long `s` and the Kelvin sign are letters of it. -/
example : (Switch.mk "s.k").accepts "/ſ.\u212a" = true ∧
    (Switch.mk "s.k").accepts "/sxk" = false := by
  decide +kernel

end EngineHost.Switch
