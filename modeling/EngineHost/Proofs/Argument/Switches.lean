import EngineHost.Proofs.Argument.Texts
import Mathlib.Data.List.Forall2

/-!
# Switches among loosely typed entries

The search for a switch cannot pass the first entry that is no text. Whether it comes there depends on
the texts before: the search ends earlier if one of them is the switch. A scan searches for two
switches, one after the other, so it fails exactly if one of the two is missing before that entry,
and it always says the kind of that entry.

A scan that does not fail has found what there is to be found. Among texts only the switches that are
given count, not where or how often.

Main facts: `accepts_iff`, `occursIn_of_stopsAt`, `scan_eq_error_iff`, `scan_entries`.
-/

namespace EngineHost

open EngineHost.Text

/-- The texts at the beginning of a vector, and the entry after them, which is none. -/
def Value.StopsAt (entries : List Value) (before : List String) (v : Value) : Prop :=
  v.text? = none ∧ ∃ after, entries = Value.texts before ++ v :: after

theorem Value.exists_texts_or_stopsAt (entries : List Value) :
    (∃ args, entries = texts args) ∨ ∃ before v, StopsAt entries before v := by
  induction entries with
  | nil => exact .inl ⟨[], rfl⟩
  | cons entry rest ih =>
    cases hentry : entry.text? with
    | none => exact .inr ⟨[], entry, hentry, rest, rfl⟩
    | some arg =>
      have htext : entry = .text arg := by
        cases entry <;> simp_all [text?]
      subst htext
      obtain ⟨args, rfl⟩ | ⟨before, v, hv, after, rfl⟩ := ih
      · exact .inl ⟨arg :: args, rfl⟩
      · exact .inr ⟨arg :: before, v, hv, after, rfl⟩

theorem Value.expectText_of_text?_eq_none {v : Value} (h : v.text? = none) :
    v.expectText = .error (.notText v.kindName) := by
  cases v with
  | text s => contradiction
  | _ => rfl

namespace Switch

/-- The switches that a scan searches for. -/
def display : List Switch := [errorRanges, editorErrors]

/-- The argument is a slash or two dashes, and after them the name of the switch in any case. -/
def IsGivenBy (s : Switch) (arg : String) : Prop :=
  ∃ body, (arg.toList = '/' :: body ∨ arg.toList = '-' :: '-' :: body) ∧
    List.Forall₂ (fun c d => sameCaseless c d = true) s.name.toList body

theorem matchesCaseless_iff_forall₂ {name body : List Char} :
    matchesCaseless name body = true ↔
      List.Forall₂ (fun c d => sameCaseless c d = true) name body := by
  have hsame : ∀ c d, sameCaseless c d = true ↔ caseKey c = caseKey d := by
    intro c d
    exact beq_iff_eq
  simp only [matchesCaseless_iff, hsame]
  rw [← List.forall₂_eq_eq_eq, List.forall₂_map_left_iff, List.forall₂_map_right_iff]

theorem body?_eq_some_iff {chars body : List Char} :
    body? chars = some body ↔ chars = '/' :: body ∨ chars = '-' :: '-' :: body := by
  constructor
  · intro h
    unfold body? at h
    split at h
    · cases h
      exact .inl rfl
    · cases h
      exact .inr rfl
    · contradiction
  · rintro (rfl | rfl) <;> rfl

theorem accepts_iff (s : Switch) (arg : String) : s.accepts arg = true ↔ s.IsGivenBy arg := by
  simp only [IsGivenBy, ← body?_eq_some_iff, ← matchesCaseless_iff_forall₂, accepts]
  cases body? arg.toList <;> simp

theorem any_accepts_eq_false_iff (s : Switch) (args : List String) :
    args.any s.accepts = false ↔ ∀ arg ∈ args, ¬ s.IsGivenBy arg := by
  simp only [List.any_eq_false, accepts_iff]

/-- Where the entries stop being texts, the search has ended with the switch, or fails. -/
theorem occursIn_of_stopsAt (s : Switch) {entries : List Value} {before : List String} {v : Value}
    (h : Value.StopsAt entries before v) :
    s.occursIn entries =
      if before.any s.accepts then .ok true else .error (.notText v.kindName) := by
  obtain ⟨hv, after, rfl⟩ := h
  induction before with
  | nil =>
    simp only [Value.texts, List.map_nil, List.nil_append, occursIn,
      Value.expectText_of_text?_eq_none hv, List.any_nil, Bool.false_eq_true, if_false]
  | cons arg before ih =>
    unfold Value.texts at ih ⊢
    rw [List.map_cons, List.cons_append, occursIn, List.any_cons]
    simp only [Value.expectText]
    cases s.accepts arg with
    | true => rfl
    | false => rw [if_neg Bool.false_ne_true, Bool.false_or, ih]

end Switch

namespace DisplayFlags

variable {entries : List Value} {before : List String} {v : Value}

theorem scan_of_stopsAt (h : Value.StopsAt entries before v) :
    scan entries =
      if before.any Switch.errorRanges.accepts && before.any Switch.editorErrors.accepts then
        .ok { errorRanges := true, editorErrors := true }
      else .error (.notText v.kindName) := by
  rw [scan, Switch.occursIn_of_stopsAt _ h, Switch.occursIn_of_stopsAt _ h]
  -- The first search that fails is the last one made.
  cases before.any Switch.errorRanges.accepts with
  | false => rfl
  | true => cases before.any Switch.editorErrors.accepts <;> rfl

theorem exists_missing_iff (before : List String) :
    (∃ s ∈ Switch.display, ∀ arg ∈ before, ¬ s.IsGivenBy arg) ↔
      (before.any Switch.errorRanges.accepts && before.any Switch.editorErrors.accepts) = false := by
  simp only [← Switch.any_accepts_eq_false_iff, Bool.and_eq_false_iff, Switch.display,
    List.mem_cons, List.not_mem_nil, or_false, exists_eq_or_imp, exists_eq_left]

theorem scan_eq_error_iff {e : ArgumentError} :
    scan entries = .error e ↔
      ∃ before v, Value.StopsAt entries before v ∧
        (∃ s ∈ Switch.display, ∀ arg ∈ before, ¬ s.IsGivenBy arg) ∧ e = .notText v.kindName := by
  constructor
  · intro h
    obtain ⟨args, rfl⟩ | ⟨before, v, hstop⟩ := Value.exists_texts_or_stopsAt entries
    · rw [scan_texts] at h
      contradiction
    · rw [scan_of_stopsAt hstop] at h
      split at h
      next => contradiction
      next hmissing =>
        rw [Bool.not_eq_true] at hmissing
        exact ⟨before, v, hstop, (exists_missing_iff before).mpr hmissing, (Except.error.inj h).symm⟩
  · rintro ⟨before, v, hstop, hmissing, rfl⟩
    rw [scan_of_stopsAt hstop, (exists_missing_iff before).mp hmissing]
    rfl

/-- A number is not looked at if both switches stand before it, and in the way of a switch after it. -/
example :
    scan [.text "--VSErrors", .text "/test:errorranges", .int 5] =
        .ok { errorRanges := true, editorErrors := true } ∧
      scan [.text "--VSErrors", .int 5, .text "/test:errorranges"] = .error (.notText "int") := by
  decide +kernel

end DisplayFlags

end EngineHost
