import EngineHost.Proofs.Argument.Texts

/-!
# Argument vectors with a program argument

Whatever the name of the program is, the name itself looks like the program. An argument vector with
a program argument put in front is therefore left alone when it is looked at again, and a compile
cannot tell it from the vector it was made of. Its switches are those of that vector, and the name
may add one only if it spells a switch.

Main facts: `isPath_self`, `ensureTexts_ensureTexts`, `any_ensureTexts`, `ensure_texts_repaired`.
-/

namespace EngineHost

namespace Program

open EngineHost.Text

/-! ## The name as a program argument -/

theorem after?_append (pattern rest : List Char) : after? pattern (pattern ++ rest) = some rest := by
  induction pattern with
  | nil => rfl
  | cons c pattern ih =>
    have hself : sameCaseless c c = true := beq_self_eq_true (caseKey c)
    rw [List.cons_append, after?, if_pos hself, ih]

theorem matchesHere_self (name : List Char) : matchesHere name name = true := by
  have hafter : after? name name = some [] := by
    have h := after?_append name []
    rwa [List.append_nil] at h
  rw [matchesHere, hafter]
  rfl

/-- The name looks like the program whatever characters it is made of. -/
theorem isPath_self (name : String) : isPath name name = true := by
  unfold isPath
  have hhere := matchesHere_self name.toList
  cases hname : name.toList with
  | nil => rfl
  | cons c rest =>
    rw [hname] at hhere
    rw [matchesSomewhere, hhere, Bool.true_or]

/-! ## The vector with a program argument -/

theorem ensureTexts_of_isPath {name first : String} (h : isPath name first = true)
    (rest : List String) : ensureTexts name (first :: rest) = first :: rest :=
  if_pos h

theorem exists_isPath_ensureTexts (name : String) (args : List String) :
    ∃ first rest, ensureTexts name args = first :: rest ∧ isPath name first = true := by
  cases args with
  | nil => exact ⟨name, [], rfl, isPath_self name⟩
  | cons first rest =>
    by_cases h : isPath name first = true
    · exact ⟨first, rest, ensureTexts_of_isPath h rest, h⟩
    · exact ⟨name, first :: rest, if_neg h, isPath_self name⟩

theorem ensureTexts_eq_or (name : String) (args : List String) :
    ensureTexts name args = args ∨ ensureTexts name args = name :: args := by
  cases args with
  | nil => exact .inr rfl
  | cons first rest =>
    by_cases h : isPath name first = true
    · exact .inl (ensureTexts_of_isPath h rest)
    · exact .inr (if_neg h)

theorem ensureTexts_ensureTexts (name : String) (args : List String) :
    ensureTexts name (ensureTexts name args) = ensureTexts name args := by
  obtain ⟨first, rest, hargs, hpath⟩ := exists_isPath_ensureTexts name args
  rw [hargs, ensureTexts_of_isPath hpath]

/-- What is among the arguments afterwards was there before, or is the name put in front. -/
theorem any_ensureTexts (p : String → Bool) (name : String) (args : List String) :
    (ensureTexts name args).any p =
      (args.any p || decide (ensureTexts name args ≠ args) && p name) := by
  rcases ensureTexts_eq_or name args with h | h
  · rw [h, decide_eq_false (not_not_intro rfl), Bool.false_and, Bool.or_false]
  · have hne : name :: args ≠ args := List.cons_ne_self name args
    rw [h, decide_eq_true hne, Bool.true_and, List.any_cons, Bool.or_comm]

/-- No vector, an empty one and the name alone become the name alone. -/
theorem ensure_alone (name : String) :
    ensure name .null = .ok [.text name] ∧ ensure name (.list []) = .ok [.text name] ∧
      ensure name (.list [.text name]) = .ok [.text name] := by
  have hname := ensure_texts name [name]
  rw [ensureTexts_of_isPath (isPath_self name) []] at hname
  exact ⟨rfl, rfl, hname⟩

end Program

namespace DisplayFlags

theorem errorRanges_ofTexts_ensureTexts (name : String) (args : List String) :
    (ofTexts (Program.ensureTexts name args)).errorRanges =
      ((ofTexts args).errorRanges ||
        decide (Program.ensureTexts name args ≠ args) && Switch.errorRanges.accepts name) :=
  Program.any_ensureTexts _ name args

theorem editorErrors_ofTexts_ensureTexts (name : String) (args : List String) :
    (ofTexts (Program.ensureTexts name args)).editorErrors =
      ((ofTexts args).editorErrors ||
        decide (Program.ensureTexts name args ≠ args) && Switch.editorErrors.accepts name) :=
  Program.any_ensureTexts _ name args

/-- The default name spells no switch. -/
theorem ofTexts_ensureTexts_defaultName (args : List String) :
    ofTexts (Program.ensureTexts Program.defaultName args) = ofTexts args := by
  have hranges : Switch.errorRanges.accepts Program.defaultName = false := by decide
  have heditor : Switch.editorErrors.accepts Program.defaultName = false := by decide
  rw [ofTexts, ofTexts, Program.any_ensureTexts, Program.any_ensureTexts, hranges, heditor,
    Bool.and_false, Bool.or_false, Bool.or_false]

end DisplayFlags

namespace Compiler

/-- A compile sees no more of an argument vector than the vector with a program argument. -/
theorem compileArgs_congr {c : Compiler} {argv argv' : Value}
    (h : Program.ensure c.programName argv = Program.ensure c.programName argv')
    (site : CallSite) (p : Process) : c.compileArgs site argv p = c.compileArgs site argv' p := by
  have hprepare : prepare c.programName argv = prepare c.programName argv' := by
    rw [prepare, prepare, h]
  rw [compileArgs, compileArgs, hprepare]

end Compiler

namespace Program

/-- Texts with a program argument in front begin with an argument that looks like the program; they
are the texts as they were, or with the name in front of them; and they stay as they are when a
program argument is looked for again. Their switches are those that were there, and those that the
name spells if it was put in front; the default name spells none. Every compiler does the same with
them as with the texts they were made of, and the same with no vector, an empty one and the name
alone. -/
theorem ensure_texts_repaired (name : String) (args : List String) :
    (∃ repaired : List String,
      ensure name (.list (Value.texts args)) = .ok (Value.texts repaired) ∧
      (∃ first rest, repaired = first :: rest ∧ isPath name first = true) ∧
      (repaired = args ∨ repaired = name :: args) ∧
      ensure name (.list (Value.texts repaired)) = .ok (Value.texts repaired) ∧
      (∃ before after : DisplayFlags,
        DisplayFlags.scan (Value.texts args) = .ok before ∧
        DisplayFlags.scan (Value.texts repaired) = .ok after ∧
        after.errorRanges = (before.errorRanges ||
          decide (repaired ≠ args) && Switch.errorRanges.accepts name) ∧
        after.editorErrors = (before.editorErrors ||
          decide (repaired ≠ args) && Switch.editorErrors.accepts name)) ∧
      ∀ engine resolver site p,
        let c : Compiler := { engine, resolver, programName := name }
        c.compileArgs site (.list (Value.texts repaired)) p =
          c.compileArgs site (.list (Value.texts args)) p) ∧
    (∃ repaired : List String,
      ensure defaultName (.list (Value.texts args)) = .ok (Value.texts repaired) ∧
      DisplayFlags.scan (Value.texts repaired) = DisplayFlags.scan (Value.texts args)) ∧
    (ensure name .null = .ok [.text name] ∧ ensure name (.list []) = .ok [.text name] ∧
      ensure name (.list [.text name]) = .ok [.text name]) ∧
    ∀ engine resolver site p,
      let c : Compiler := { engine, resolver, programName := name }
      c.compileArgs site (.list []) p = c.compileArgs site .null p ∧
      c.compileArgs site (.list [.text name]) p = c.compileArgs site .null p := by
  have hagain := ensure_texts name (ensureTexts name args)
  rw [ensureTexts_ensureTexts] at hagain
  refine ⟨⟨ensureTexts name args, ensure_texts name args, exists_isPath_ensureTexts name args,
    ensureTexts_eq_or name args, hagain, ?_, ?_⟩, ?_, ensure_alone name, ?_⟩
  · exact ⟨.ofTexts args, .ofTexts (ensureTexts name args), DisplayFlags.scan_texts args,
      DisplayFlags.scan_texts _, DisplayFlags.errorRanges_ofTexts_ensureTexts name args,
      DisplayFlags.editorErrors_ofTexts_ensureTexts name args⟩
  · intro engine resolver site p
    exact Compiler.compileArgs_congr (hagain.trans (ensure_texts name args).symm) site p
  · refine ⟨ensureTexts defaultName args, ensure_texts defaultName args, ?_⟩
    rw [DisplayFlags.scan_texts, DisplayFlags.scan_texts,
      DisplayFlags.ofTexts_ensureTexts_defaultName]
  · intro engine resolver site p
    obtain ⟨hnull, hempty, halone⟩ := ensure_alone name
    exact ⟨Compiler.compileArgs_congr (hempty.trans hnull.symm) site p,
      Compiler.compileArgs_congr (halone.trans hnull.symm) site p⟩

/-- A name that spells a switch adds it where it is put in front. -/
example : ensureTexts "/VSErrors" ["a.fs"] = ["/VSErrors", "a.fs"] ∧
    (DisplayFlags.ofTexts (ensureTexts "/VSErrors" ["a.fs"])).editorErrors = true := by decide

end Program

end EngineHost
