import EngineHost.Proofs.Compile.Faults
import EngineHost.Proofs.Compile.Observation
import EngineHost.Proofs.Diagnostic.Lines
import EngineHost.Proofs.Text.Lines

/-!
# Where the lines of an answer come from

The lines of an answer to a command line are made by different producers. Output and error lines are
cut out of what the console has captured, or are the report of an internal error. The lines of the
diagnostics are rendered one by one, with the text that the engine gave. None of them is empty, but
only a line of a diagnostic can hold a line break.
-/

namespace EngineHost

open EngineHost.Text

/-- An answer to the command line by producers: the lines that were captured from the output or
report an internal error, the lines of the diagnostics that follow them, and the error lines. -/
inductive LineCompile.Reports (x : LineCompile) : List String → List String → List String → Prop
  | settled {call : EngineCall} {o : Observation} (h : x.Observes call o) :
    Reports x (splitLines o.out)
      (Issue.renderAll o.flags (Report.settleAll (o.errors ++ o.warnings))) (splitLines o.err)
  | fault {s : Signal} (h : x.compiler.Faults x.site x.directory x.commandLine x.process s) :
    Reports x [internalErrorMarker, s.faultLine] [] []

theorem Issue.render_ne_empty (flags : DisplayFlags) (i : Issue) : i.render flags ≠ "" := by
  intro h
  have hlist := congrArg String.toList h
  rw [toList_render, toList_writePosition] at hlist
  exact absurd hlist (List.cons_ne_nil _ _)

theorem not_hasBreak_internalErrorMarker : ¬ HasBreak internalErrorMarker := by
  have hnone : internalErrorMarker.toList.any isBreak = false := by decide
  rw [not_hasBreak_iff]
  intro c hc
  exact Bool.eq_false_iff.mpr (List.any_eq_false.mp hnone c hc)

namespace LineCompile

variable {x : LineCompile} {host diagnostics errLines : List String}

/-- A compile goes one of three ways: its run is observed to the end, it comes upon a fault, or it is
interrupted. -/
theorem observes_or_faults_or_interrupted (x : LineCompile) :
    (∃ call o, x.Observes call o) ∨
    (∃ s, x.compiler.Faults x.site x.directory x.commandLine x.process s) ∨
    ∃ s, x.compiler.Interrupted x.site x.directory x.commandLine x.process s := by
  cases hd : x.process.directory.follow x.process.files x.directory with
  | error e => exact .inr (.inl ⟨_, .directory hd⟩)
  | ok d =>
    obtain ⟨call, hcall⟩ := Compiler.exists_lineCall? x.compiler x.site x.commandLine hd
    -- There is no other call, so what is known of this one is known of every call.
    have hobserves : Settled (call.run (Script.engine x.script)).ending →
        ∃ call o, x.Observes call o := by
      intro hsettled
      apply exists_observes hd
      intro call' hcall'
      rw [call?, hcall] at hcall'
      cases hcall'
      exact hsettled
    cases hending : (call.run (Script.engine x.script)).ending with
    | none =>
      rw [hending] at hobserves
      exact .inl (hobserves .returned)
    | some s =>
      rw [hending] at hobserves
      rcases s.settled_or_isFault_or_interrupts with hs | hs | hs
      · exact .inl (hobserves hs)
      · exact .inr (.inl ⟨s, .engine hcall hending hs⟩)
      · exact .inr (.inr ⟨s, call, hcall, hending, hs⟩)

theorem exists_reports {exitCode : Nat} {lines : List String}
    (h : x.result = .ok (exitCode, lines, errLines)) :
    ∃ host diagnostics, x.Reports host diagnostics errLines ∧ lines = host ++ diagnostics := by
  rcases x.observes_or_faults_or_interrupted with ⟨call, o, ho⟩ | ⟨s, hs⟩ | ⟨s, hs⟩
  · rw [result_of_observes ho] at h
    cases h
    exact ⟨_, _, .settled ho, rfl⟩
  · rw [result, Compiler.compileLine_of_absorbed (Compiler.absorbed?_eq_some_iff.mpr hs)] at h
    cases h
    exact ⟨_, _, .fault hs, (List.append_nil _).symm⟩
  · -- An interrupt leaves no answer.
    rw [result, Compiler.compileLine_result_eq_error_iff.mpr hs] at h
    contradiction

theorem Reports.ne_empty (h : x.Reports host diagnostics errLines) :
    ∀ line ∈ host ++ diagnostics ++ errLines, line ≠ "" := by
  intro line hline
  rw [List.mem_append, List.mem_append] at hline
  cases h with
  | settled h =>
    rcases hline with (hout | hdiagnostic) | herr
    · exact ne_empty_of_mem_splitLines hout
    · obtain ⟨i, -, rfl⟩ := List.mem_map.mp hdiagnostic
      exact i.render_ne_empty _
    · exact ne_empty_of_mem_splitLines herr
  | @fault s h =>
    have hreport : line = internalErrorMarker ∨ line = s.faultLine := by
      simpa using hline
    rcases hreport with rfl | rfl
    · decide
    · exact s.faultLine_ne_empty

theorem Reports.not_hasBreak (h : x.Reports host diagnostics errLines) :
    ∀ line ∈ host ++ errLines, ¬ HasBreak line := by
  intro line hline
  rw [List.mem_append] at hline
  cases h with
  | settled h => exact hline.elim not_hasBreak_of_mem_splitLines not_hasBreak_of_mem_splitLines
  | @fault s h =>
    have hreport : line = internalErrorMarker ∨ line = s.faultLine := by
      simpa using hline
    rcases hreport with rfl | rfl
    · exact not_hasBreak_internalErrorMarker
    · exact s.not_hasBreak_faultLine

end LineCompile

end EngineHost
