import EngineHost.Argument.Program
import EngineHost.Proofs.Text.CaseVariant

/-!
# Arguments that end with the program

The search for the program goes through all places of an argument, but a match ends where the
argument ends. So it is a look at the end of the argument alone: an argument looks like the program
if it ends with a variant of the name, or of the name with `.exe`, and one line feed may follow. What
is in front of such an end does not matter, and no more does the case of the argument or of the name.

Main facts: `matchesHere_iff`, `isPath_iff_names`, `isPath_append_iff`, `isPath_iff_endsLike`.
-/

namespace EngineHost.Program

open EngineHost.Text

/-! ## The search along a list of characters -/

variable {pattern name text rest : List Char}

theorem after?_eq_some_iff :
    after? pattern text = some rest ↔
      ∃ head, text = head ++ rest ∧ List.Forall₂ SameLetter pattern head := by
  induction pattern generalizing text with
  | nil => simp [after?, List.forall₂_nil_left_iff]
  | cons p pattern ih =>
    cases text with
    | nil => simp [after?, List.forall₂_cons_left_iff]
    | cons c text =>
      rw [after?]
      split
      next hsame =>
        rw [ih]
        constructor
        · rintro ⟨head, rfl, hhead⟩
          exact ⟨c :: head, rfl, .cons (sameCaseless_iff.mp hsame) hhead⟩
        · rintro ⟨head, htext, hhead⟩
          obtain ⟨d, head, -, hrest, rfl⟩ := List.forall₂_cons_left_iff.mp hhead
          exact ⟨head, (List.cons.inj htext).2, hrest⟩
      next hother =>
        refine ⟨nofun, ?_⟩
        rintro ⟨head, htext, hhead⟩
        obtain ⟨d, head, hletter, -, rfl⟩ := List.forall₂_cons_left_iff.mp hhead
        rw [← (List.cons.inj htext).1] at hletter
        exact absurd (sameCaseless_iff.mpr hletter) hother

theorem endsHere_iff : endsHere rest = true ↔ rest = [] ∨ rest = ['\n'] := by
  simp [endsHere]

/-- A match takes a variant of the name, or of the name with the suffix, and the end follows. -/
theorem matchesHere_iff :
    matchesHere name text = true ↔
      ∃ file rest, text = file ++ rest ∧ (rest = [] ∨ rest = ['\n']) ∧
        (List.Forall₂ SameLetter name file ∨
          List.Forall₂ SameLetter (name ++ fileSuffix) file) := by
  constructor
  · intro h
    unfold matchesHere at h
    split at h
    next => contradiction
    next rest hname =>
      obtain ⟨file, rfl, hfile⟩ := after?_eq_some_iff.mp hname
      rcases Bool.or_eq_true_iff.mp h with hend | hend
      · exact ⟨file, rest, rfl, endsHere_iff.mp hend, .inl hfile⟩
      · split at hend
        next => contradiction
        next rest' hsuffix =>
          obtain ⟨tail, rfl, htail⟩ := after?_eq_some_iff.mp hsuffix
          exact ⟨file ++ tail, rest', (List.append_assoc ..).symm, endsHere_iff.mp hend,
            .inr (List.rel_append hfile htail)⟩
  · rintro ⟨file, rest, rfl, hend, hfile | hfile⟩
    · rw [matchesHere, after?_eq_some_iff.mpr ⟨file, rfl, hfile⟩]
      simp only [endsHere_iff.mpr hend, Bool.true_or]
    · obtain ⟨head, tail, rfl, hhead, htail⟩ := forall₂_append_left_iff.mp hfile
      rw [List.append_assoc, matchesHere, after?_eq_some_iff.mpr ⟨head, rfl, hhead⟩]
      simp only [after?_eq_some_iff.mpr ⟨tail, rfl, htail⟩, endsHere_iff.mpr hend, Bool.or_true]

/-- The search tries the ends of a text, the longest first. -/
theorem matchesSomewhere_iff :
    matchesSomewhere name text = true ↔ ∃ tail, tail <:+ text ∧ matchesHere name tail = true := by
  induction text with
  | nil => simp [matchesSomewhere]
  | cons c text ih =>
    simp only [matchesSomewhere, Bool.or_eq_true, ih, List.suffix_cons_iff, or_and_right,
      exists_or, exists_eq_left]

/-! ## Ends of an argument -/

/-- Some end of the text is a variant of the ending. -/
def EndsLike (ending text : String) : Prop :=
  ∃ front tail, text = front ++ tail ∧ CaseVariant ending tail

/-- The text is a variant of the name, with or without `.exe`; one line feed may follow. -/
def Names (name text : String) : Prop :=
  ∃ file, (text = file ∨ text = file ++ "\n") ∧
    (CaseVariant name file ∨ CaseVariant (name ++ ".exe") file)

section

variable {name name' text text' arg arg' : String}

theorem caseVariant_append_iff_forall₂ :
    CaseVariant (name ++ ".exe") text ↔
      List.Forall₂ SameLetter (name.toList ++ fileSuffix) text.toList := by
  rw [CaseVariant, String.toList_append, fileSuffix]

theorem names_iff_matchesHere : Names name text ↔ matchesHere name.toList text.toList = true := by
  rw [matchesHere_iff]
  constructor
  · rintro ⟨file, htext, hfile⟩
    rw [caseVariant_append_iff_forall₂] at hfile
    rcases htext with rfl | rfl
    · exact ⟨_, [], (List.append_nil _).symm, .inl rfl, hfile⟩
    · exact ⟨file.toList, ['\n'], String.toList_append, .inr rfl, hfile⟩
  · rintro ⟨file, rest, htext, hend, hfile⟩
    refine ⟨String.ofList file, ?_, ?_⟩
    · simp only [← String.toList_inj, String.toList_append, String.toList_ofList, htext]
      rcases hend with rfl | rfl
      · exact .inl (List.append_nil _)
      · exact .inr rfl
    · rwa [caseVariant_append_iff_forall₂, CaseVariant, String.toList_ofList]

theorem isPath_iff_names :
    isPath name arg = true ↔ ∃ front tail, arg = front ++ tail ∧ Names name tail := by
  rw [isPath, matchesSomewhere_iff]
  constructor
  · rintro ⟨tail, ⟨front, harg⟩, hmatch⟩
    refine ⟨String.ofList front, String.ofList tail, ?_, ?_⟩
    · rw [← String.toList_inj, String.toList_append, String.toList_ofList, String.toList_ofList,
        harg]
    · rwa [names_iff_matchesHere, String.toList_ofList]
  · rintro ⟨front, tail, rfl, hnames⟩
    exact ⟨tail.toList, ⟨front.toList, String.toList_append.symm⟩, names_iff_matchesHere.mp hnames⟩

/-! ## What may be changed -/

theorem exists_of_append_eq_append {a b c d : String} (h : a ++ b = c ++ d) :
    (∃ x, c = a ++ x ∧ b = x ++ d) ∨ ∃ x, a = c ++ x ∧ d = x ++ b := by
  simp only [← String.toList_inj, String.toList_append] at h ⊢
  rcases List.append_eq_append_iff.mp h with ⟨x, hc, hb⟩ | ⟨x, ha, hd⟩
  · exact .inl ⟨String.ofList x, by rw [String.toList_ofList, hc], by rw [String.toList_ofList, hb]⟩
  · exact .inr ⟨String.ofList x, by rw [String.toList_ofList, ha], by rw [String.toList_ofList, hd]⟩

/-- Text in front makes a program path only of an argument that is the rest of one. -/
theorem isPath_append_iff {front : String} :
    isPath name (front ++ arg) = true ↔
      isPath name arg = true ∨
        ∃ before tail, front = before ++ tail ∧ tail ≠ "" ∧ Names name (tail ++ arg) := by
  constructor
  · intro h
    obtain ⟨before, tail, happend, hnames⟩ := isPath_iff_names.mp h
    rcases exists_of_append_eq_append happend with ⟨x, -, rfl⟩ | ⟨x, rfl, rfl⟩
    · exact .inl (isPath_iff_names.mpr ⟨x, tail, rfl, hnames⟩)
    · by_cases hx : x = ""
      · subst hx
        exact .inl (isPath_iff_names.mpr ⟨"", arg, String.empty_append.symm, by simpa using hnames⟩)
      · exact .inr ⟨before, x, rfl, hx, hnames⟩
  · rintro (h | ⟨before, tail, rfl, -, hnames⟩)
    · obtain ⟨before, tail, rfl, hnames⟩ := isPath_iff_names.mp h
      exact isPath_iff_names.mpr ⟨front ++ before, tail, String.append_assoc.symm, hnames⟩
    · exact isPath_iff_names.mpr ⟨before, tail ++ arg, String.append_assoc, hnames⟩

/-- A line feed has no variant. -/
theorem eq_of_caseVariant_lineFeed (h : CaseVariant "\n" text) : text = "\n" := by
  have hlist : List.Forall₂ SameLetter ['\n'] text.toList := h
  obtain ⟨c, rest, hc, hrest, htext⟩ := List.forall₂_cons_left_iff.mp hlist
  rw [hc.eq_of_lt (by decide), List.forall₂_nil_left_iff.mp hrest] at htext
  exact String.toList_inj.mp htext

theorem Names.congr (hname : CaseVariant name name') (htext : CaseVariant text text')
    (h : Names name text) : Names name' text' := by
  have hequiv := caseVariant_equivalence
  have hsuffixed : CaseVariant (name ++ ".exe") (name' ++ ".exe") :=
    (caseVariant_append_iff hname.length_eq).mpr ⟨hname, hequiv.refl ".exe"⟩
  have hfiles : ∀ {file file' : String}, CaseVariant file file' →
      CaseVariant name file ∨ CaseVariant (name ++ ".exe") file →
      CaseVariant name' file' ∨ CaseVariant (name' ++ ".exe") file' := by
    intro file file' hfile
    exact Or.imp (fun hn => hequiv.trans (hequiv.symm hname) (hequiv.trans hn hfile))
      (fun hn => hequiv.trans (hequiv.symm hsuffixed) (hequiv.trans hn hfile))
  obtain ⟨file, rfl | rfl, hfile⟩ := h
  · exact ⟨text', .inl rfl, hfiles htext hfile⟩
  · obtain ⟨file', feed, rfl, hfile', hfeed⟩ := exists_of_caseVariant_append htext
    obtain rfl := eq_of_caseVariant_lineFeed hfeed
    exact ⟨file', .inr rfl, hfiles hfile' hfile⟩

theorem isPath_of_caseVariant (hname : CaseVariant name name') (harg : CaseVariant arg arg')
    (h : isPath name arg = true) : isPath name' arg' = true := by
  obtain ⟨front, tail, rfl, hnames⟩ := isPath_iff_names.mp h
  obtain ⟨front', tail', rfl, -, htail⟩ := exists_of_caseVariant_append harg
  exact isPath_iff_names.mpr ⟨front', tail', rfl, hnames.congr hname htail⟩

/-- A match is a variant of the name at the end of the argument, or before its last line feed. -/
theorem isPath_iff_exists_endsLike :
    isPath name arg = true ↔
      ∃ body, (arg = body ∨ arg = body ++ "\n") ∧
        (EndsLike name body ∨ EndsLike (name ++ ".exe") body) := by
  rw [isPath_iff_names]
  constructor
  · rintro ⟨front, tail, rfl, file, htail, hfile⟩
    refine ⟨front ++ file, ?_, ?_⟩
    · rcases htail with rfl | rfl
      · exact .inl rfl
      · exact .inr String.append_assoc.symm
    · exact hfile.imp (fun h => ⟨front, file, rfl, h⟩) (fun h => ⟨front, file, rfl, h⟩)
  · rintro ⟨body, hbody, hends⟩
    have hfile : ∃ front file, body = front ++ file ∧
        (CaseVariant name file ∨ CaseVariant (name ++ ".exe") file) := by
      rcases hends with ⟨front, file, rfl, h⟩ | ⟨front, file, rfl, h⟩
      · exact ⟨front, file, rfl, .inl h⟩
      · exact ⟨front, file, rfl, .inr h⟩
    obtain ⟨front, file, rfl, hfile⟩ := hfile
    rcases hbody with rfl | rfl
    · exact ⟨front, file, rfl, file, .inl rfl, hfile⟩
    · exact ⟨front, file ++ "\n", String.append_assoc, file, .inr rfl, hfile⟩

end

/-- An argument looks like the program exactly if it, or it without a line feed at its end, ends
with a variant of the name, or of the name with `.exe`: with as many characters, each the same
without regard to case. So an argument that looks like the program still does so with any text in
front of it; one that does not comes to do so only if it is the rest of such an end, begun by the
text in front. The answer is the same for every variant of the argument and of the name. -/
theorem isPath_iff_endsLike :
    (∀ name arg, isPath name arg = true ↔
      ∃ body, (arg = body ∨ arg = body ++ "\n") ∧
        (EndsLike name body ∨ EndsLike (name ++ ".exe") body)) ∧
    (∀ name arg front, isPath name arg = true → isPath name (front ++ arg) = true) ∧
    (∀ name arg front, isPath name (front ++ arg) = true →
      isPath name arg = true ∨
        ∃ before tail, front = before ++ tail ∧ tail ≠ "" ∧ Names name (tail ++ arg)) ∧
    ∀ name name' arg arg', CaseVariant name name' → CaseVariant arg arg' →
      isPath name' arg' = isPath name arg := by
  refine ⟨fun _ _ => isPath_iff_exists_endsLike, fun _ _ _ h => isPath_append_iff.mpr (.inl h),
    fun _ _ _ h => isPath_append_iff.mp h, ?_⟩
  intro name name' arg arg' hname harg
  have hequiv := caseVariant_equivalence
  rw [Bool.eq_iff_iff]
  exact ⟨isPath_of_caseVariant (hequiv.symm hname) (hequiv.symm harg),
    isPath_of_caseVariant hname harg⟩

/-- A plus or a dot of the name is that character, and a suffix in the name is not dropped. -/
example : isPath "c++" "bin/C++.EXE\n" = true ∧ isPath "c++" "ccc" = false ∧
    isPath "fsc.exe" "fsc" = false ∧ isPath "fsc.exe" "FSC.exe.exe" = true := by decide

end EngineHost.Program
