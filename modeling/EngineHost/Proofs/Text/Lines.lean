import EngineHost.Signal.Fault
import EngineHost.Text.Lines
import Mathlib.Data.List.TakeWhile

/-!
# What lines hold

The lines of a text are never empty and hold no line break. So a text that is not empty and holds no
line break is its own only line (`splitLines_eq_singleton`), and nothing is lost or added when lines
are written one below the other and read again.

The line of a fault is of that kind, whatever led to the fault.
-/

namespace EngineHost

namespace Text

variable {α : Type} {isSep : α → Bool} {s piece : List α} {text line : String}

theorem cut_eq_splitOnP (isSep : α → Bool) (s : List α) : cut isSep s = s.splitOnP isSep := by
  induction s with
  | nil => rfl
  | cons c rest ih => rw [cut_cons, List.splitOnP_cons_eq_if_modifyHead, ih]

theorem not_isSep_of_mem_cut (h : piece ∈ cut isSep s) {c : α} (hc : c ∈ piece) :
    isSep c = false := by
  have hflat : c ∈ (cut isSep s).flatten := List.mem_flatten_of_mem h hc
  rw [flatten_cut, List.mem_filter] at hflat
  simpa using hflat.2

theorem not_mem_intercalate {c : α} {sep : List α} {pieces : List (List α)} (hsep : c ∉ sep)
    (h : ∀ piece ∈ pieces, c ∉ piece) : c ∉ sep.intercalate pieces := by
  induction pieces with
  | nil => exact List.not_mem_nil
  | cons piece rest ih =>
    obtain ⟨hpiece, hrest⟩ := List.forall_mem_cons.mp h
    cases rest with
    | nil => rwa [List.intercalate_singleton]
    | cons next rest =>
      rw [List.intercalate_cons_cons, List.mem_append, List.mem_append, not_or, not_or]
      exact ⟨⟨hpiece, hsep⟩, ih hrest⟩

/-- Names with one separator between any two are cut apart again. -/
theorem map_cut_intercalate {c : Char} {names : List String}
    (hnames : ∀ name ∈ names, c ∉ name.toList) (hne : names ≠ []) :
    (cut (· == c) ([c].intercalate (names.map String.toList))).map String.ofList = names := by
  have hpieces : ∀ piece ∈ names.map String.toList, c ∉ piece := by
    intro piece hpiece
    obtain ⟨name, hname, rfl⟩ := List.mem_map.mp hpiece
    exact hnames name hname
  have hcut := List.splitOn_intercalate c hpieces (mt List.map_eq_nil_iff.mp hne)
  have hid : String.ofList ∘ String.toList = id := by
    funext s
    exact String.ofList_toList
  rw [cut_eq_splitOnP, ← List.splitOn, hcut, List.map_map, hid, List.map_id]

theorem isBreak_iff {c : Char} : isBreak c = true ↔ c = '\r' ∨ c = '\n' := by
  simp [isBreak]

/-- The text holds a carriage return or a line feed. -/
def HasBreak (text : String) : Prop := ∃ c ∈ text.toList, c = '\r' ∨ c = '\n'

theorem not_hasBreak_iff : ¬ HasBreak text ↔ ∀ c ∈ text.toList, isBreak c = false := by
  simp [HasBreak, isBreak]

theorem mem_splitLines (h : line ∈ splitLines text) :
    line.toList ∈ cut isBreak text.toList ∧ line ≠ "" := by
  obtain ⟨piece, hpiece, rfl⟩ := List.mem_map.mp h
  obtain ⟨hcut, hne⟩ := List.mem_filter.mp hpiece
  rw [String.toList_ofList]
  refine ⟨hcut, ?_⟩
  rintro hempty
  rw [← String.toList_inj, String.toList_ofList] at hempty
  simp [hempty] at hne

theorem ne_empty_of_mem_splitLines (h : line ∈ splitLines text) : line ≠ "" :=
  (mem_splitLines h).2

theorem not_hasBreak_of_mem_splitLines (h : line ∈ splitLines text) : ¬ HasBreak line := by
  rw [not_hasBreak_iff]
  exact fun c hc => not_isSep_of_mem_cut (mem_splitLines h).1 hc

theorem splitLines_eq_singleton (hne : line ≠ "") (hbreak : ¬ HasBreak line) :
    splitLines line = [line] := by
  have hcut := cut_eq_singleton (not_hasBreak_iff.mp hbreak)
  have hnil : line.toList ≠ [] := mt String.toList_eq_nil_iff.mp hne
  simp [splitLines, lines, hcut, hnil]

theorem splitLines_line_append (line rest : String) :
    splitLines (line ++ "\n" ++ rest) = splitLines line ++ splitLines rest := by
  have hbreak : "\n".toList = ['\n'] := rfl
  simp only [splitLines, String.toList_append, hbreak, List.append_assoc, List.singleton_append,
    lines_append_break line.toList (by decide : isBreak '\n' = true), List.map_append]

/-! ## Texts on one line -/

theorem dropFinalBreaks_ne_nil {s : List Char} {c : Char} (hc : c ∈ s) (hbreak : isBreak c = false) :
    dropFinalBreaks s ≠ [] := by
  intro h
  rw [dropFinalBreaks, List.reverse_eq_nil_iff, List.dropWhile_eq_nil_iff] at h
  rw [h c (List.mem_reverse.mpr hc)] at hbreak
  contradiction

theorem isBreak_of_mem_flatten {s : List Char} {c : Char} (hc : c ∈ flatten s) :
    isBreak c = false := by
  obtain ⟨d, -, rfl⟩ := List.mem_map.mp hc
  split
  · rfl
  · next h => exact Bool.eq_false_iff.mpr h

end Text

/-! ## The line of a fault -/

namespace Signal

open EngineHost.Text

theorem exists_mem_fullName (s : Signal) : ∃ c ∈ s.fullName.toList, isBreak c = false := by
  have hkind : ∀ kind : SignalKind, 'o' ∈ kind.name.toList := by
    intro kind
    cases kind <;> decide
  have hexit : 'S' ∈ "SystemExit".toList := by decide
  have hwrapped : 'W' ∈ "fschost.engine.WrappedError".toList := by decide
  unfold fullName
  cases s.body with
  | plain kind message =>
    refine ⟨'o', ?_, by decide⟩
    rw [String.toList_append]
    exact List.mem_append_right _ (hkind kind)
  | exit code => exact ⟨'S', hexit, by decide⟩
  | wrapped inner => exact ⟨'W', hwrapped, by decide⟩

theorem exists_mem_headline (s : Signal) : ∃ c ∈ s.headline.toList, isBreak c = false := by
  obtain ⟨c, hc, hbreak⟩ := s.exists_mem_fullName
  refine ⟨c, ?_, hbreak⟩
  unfold headline
  split <;> simp [hc]

theorem exists_mem_ownAccount (s : Signal) : ∃ c ∈ s.ownAccount.toList, isBreak c = false := by
  obtain ⟨c, hc, hbreak⟩ := s.exists_mem_headline
  refine ⟨c, ?_, hbreak⟩
  unfold ownAccount
  split
  · simp [hc]
  · exact hc

-- The account of a signal ends with its own, which names it.
theorem exists_mem_account (s : Signal) : ∃ c ∈ s.account.toList, isBreak c = false := by
  obtain ⟨c, hc, hbreak⟩ := s.exists_mem_ownAccount
  refine ⟨c, ?_, hbreak⟩
  obtain ⟨body, raised, cause, context⟩ := s
  cases cause with
  | some cause => simp [account, hc]
  | none =>
    cases context with
    | some context => simp [account, hc]
    | none => simpa [account] using hc

theorem faultLine_ne_empty (s : Signal) : s.faultLine ≠ "" := by
  obtain ⟨c, hc, hbreak⟩ := s.exists_mem_account
  have hne := dropFinalBreaks_ne_nil hc hbreak
  simpa [faultLine, flatten, ← String.toList_inj] using hne

theorem not_hasBreak_faultLine (s : Signal) : ¬ HasBreak s.faultLine := by
  rw [not_hasBreak_iff, faultLine, String.toList_ofList]
  exact fun c hc => isBreak_of_mem_flatten hc

end Signal

end EngineHost
