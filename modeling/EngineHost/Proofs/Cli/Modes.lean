import EngineHost.Proofs.Cli.Ending
import EngineHost.Proofs.Cli.Json
import EngineHost.Proofs.Compile.Provenance
import EngineHost.Proofs.Compile.Restoration

/-!
# Reports as an object and as lines

The tool prints the same report as an object or as plain lines, with the same exit code. The object
can be read back. The error lines can be read back from the plain form as well, and so can the other
lines exactly if no line of a diagnostic holds a line break (`run_modes`).
-/

namespace EngineHost

open EngineHost.Text

theorem Located.exists_script (l : Located) : ∃ script, l.engine = Script.engine script := by
  unfold Located.engine
  split
  · exact ⟨_, rfl⟩
  · exact ⟨[], rfl⟩

namespace Cli

/-! ## Printed lines -/

theorem splitLines_printLines (lines : List String) :
    splitLines (printLines lines) = lines.flatMap splitLines := by
  induction lines with
  | nil => rfl
  | cons line rest ih =>
    have hcons : printLines (line :: rest) = line ++ "\n" ++ printLines rest := by
      rw [printLines, List.map_cons, String.join_cons, printLines]
    rw [hcons, splitLines_line_append, ih, List.flatMap_cons]

/-- Lines that are printed are read again as they were exactly if none of them holds a line break. -/
theorem splitLines_printLines_eq_iff {lines : List String} (hne : ∀ line ∈ lines, line ≠ "") :
    splitLines (printLines lines) = lines ↔ ∀ line ∈ lines, ¬ HasBreak line := by
  constructor
  · intro h line hline
    rw [← h] at hline
    exact not_hasBreak_of_mem_splitLines hline
  · intro hbreak
    have hsingle : ∀ line ∈ lines, splitLines line = [line] :=
      fun line hline => splitLines_eq_singleton (hne line hline) (hbreak line hline)
    calc splitLines (printLines lines)
        = lines.flatMap splitLines := splitLines_printLines lines
      _ = lines.flatMap ([·]) := List.flatMap_congr hsingle
      _ = lines := List.flatMap_singleton' lines

/-! ## The process's own streams -/

theorem ambient_write {p : Process} (h : p.console.current = .of .ambient)
    (channel side : Channel) (s : String) :
    (p.write channel s).console.ambient side =
      if side = channel then p.console.ambient side ++ s else p.console.ambient side := by
  rw [Process.write, Console.ambient, Console.text_write, h]
  cases channel <;> cases side <;> rfl

/-- What a report brings to the process's own streams. An object takes the place of both kinds of
lines. -/
theorem ambient_printReport {p : Process} (h : p.console.current = .of .ambient) (json : Bool)
    (exitCode : Nat) (lines errLines : List String) :
    (printReport json exitCode lines errLines p).console.ambient .out =
      p.console.ambient .out ++
        (if json then jsonReport exitCode lines errLines ++ "\n" else printLines lines) ∧
    (printReport json exitCode lines errLines p).console.ambient .err =
      p.console.ambient .err ++ (if json then "" else printLines errLines) := by
  cases json with
  | true =>
    simp only [printReport, if_true, Process.writeLine, ambient_write h, reduceCtorEq, if_false,
      String.append_empty, and_self]
  | false =>
    have hcurrent : (p.write .out (printLines lines)).console.current = .of .ambient := h
    simp only [printReport, Bool.false_eq_true, if_false, ambient_write hcurrent, ambient_write h,
      reduceCtorEq, if_true, and_self]

theorem textOn_eq_empty_of_isRecord (verbose : Bool) {e : Event} (h : e.act.isRecord = true) :
    e.textOn verbose (.of .ambient) ⟨.ambient, .out⟩ = "" := by
  obtain ⟨place, act⟩ := e
  cases act with
  | logged r =>
    cases verbose with
    | true => rfl
    | false => cases place <;> simp [Event.textOn, Act.textOn, StreamPair.of, StreamPair.get]
  | _ => contradiction

-- Log records go to the error stream, whichever of them are written.
theorem textOn_records_out (verbose : Bool) (es : Trace) :
    es.records.textOn verbose (.of .ambient) ⟨.ambient, .out⟩ = "" := by
  have hrecords : ∀ e ∈ es.records, e.act.isRecord = true := fun e he => (List.mem_filter.mp he).2
  generalize es.records = fs at hrecords
  induction fs with
  | nil => exact Trace.textOn_nil ..
  | cons e fs ih =>
    have hcons : e :: fs = [e] ++ fs := rfl
    rw [hcons, Trace.textOn_append, Trace.textOn_singleton,
      textOn_eq_empty_of_isRecord verbose (hrecords e List.mem_cons_self), String.empty_append]
    exact ih fun e he => hrecords e (List.mem_cons_of_mem _ he)

/-- A compile brings nothing but log records to the process's own streams, and those to the error
stream. -/
theorem ambient_after {x : LineCompile} (h : x.process.console.current = .of .ambient) :
    x.after.console.current = .of .ambient ∧
    x.after.console.ambient .out = x.process.console.ambient .out ∧
    x.after.console.ambient .err = x.process.console.ambient .err ++
      x.trace.records.textOn x.process.verbose (.of .ambient) ⟨.ambient, .err⟩ := by
  have hrecords : ∀ stream, x.trace.records.textOn x.process.verbose (.of .ambient) stream =
      x.trace.textOn x.process.verbose (.of .ambient) stream :=
    fun stream => Trace.textOn_records _ _ _ fun e he =>
      Compiler.captured_or_isRecord_of_mem_lineTrace _ _ _ _ _ _ he
  have htext : ∀ side, x.after.console.ambient side = x.process.console.ambient side ++
      x.trace.records.textOn x.process.verbose (.of .ambient) ⟨.ambient, side⟩ := by
    intro side
    have hside := x.evolves.text ⟨.ambient, side⟩ trivial
    rw [h] at hside
    rw [hrecords]
    exact hside
  refine ⟨x.evolves.current.trans h, ?_, htext .err⟩
  rw [htext, textOn_records_out, String.append_empty]

/-! ## The compile of the tool -/

/-- The compile that the tool makes with the engine of a script. -/
def Options.lineCompile (options : Options) (script : Script) (p : Process) : LineCompile where
  script
  directory := directoryTarget options.directory
  commandLine := .text options.commandLine
  process := { p with verbose := options.verbose }

/-- The log records that the compile brings to the process's error stream. -/
def Options.logged (options : Options) (script : Script) (p : Process) : String :=
  (options.lineCompile script p).trace.records.textOn options.verbose (.of .ambient)
    ⟨.ambient, .err⟩

/-- All that the run has brought to the process's own output is a report as an object; `p` is the
process before the run. -/
def Outcome.PrintsObject (o : Outcome) (p : Process) (exitCode : Nat)
    (lines errLines : List String) : Prop :=
  o.process.console.ambient .out =
    p.console.ambient .out ++ (jsonReport exitCode lines errLines ++ "\n")

section

variable {ω : Type} {space : ModuleSpace ω} {engineOf : ω → Engine} {args args' : List String}
  {options : Options} {environment : Option String} {p : Process} {object : ω} {script : Script}

section

variable (json : Bool) (hparse : parse args = .ok { options with json })
  (hload : space.load (engineReference options.engine environment) = .ok object)
  (hengine : engineOf object = Script.engine script)

include hparse hload hengine

theorem run_of_answer {exitCode : Nat} {lines errLines : List String}
    (h : (options.lineCompile script p).result = .ok (exitCode, lines, errLines)) :
    (run space engineOf args environment p).ending = .returned exitCode ∧
    (run space engineOf args environment p).process =
      printReport json exitCode lines errLines (options.lineCompile script p).after := by
  have hresult : (toolCompile (engineOf object) { options with json } p).result =
      .ok (exitCode, lines, errLines) := by
    rw [hengine]
    exact h
  rw [run_of_loaded hparse hload, hresult, hengine]
  exact ⟨rfl, rfl⟩

theorem run_of_interrupt {s : Signal} (h : (options.lineCompile script p).result = .error s) :
    s.Interrupts ∧ (run space engineOf args environment p).ending = .signalled s ∧
    (run space engineOf args environment p).process = (options.lineCompile script p).after := by
  have hresult : (toolCompile (engineOf object) { options with json } p).result = .error s := by
    rw [hengine]
    exact h
  have hinterrupts := toolCompile_result_eq_error hresult
  rw [run_of_loaded hparse hload, hresult, hengine]
  exact ⟨hinterrupts, Ending.ofSignal_of_interrupts hinterrupts, rfl⟩

variable (hambient : p.console.current = .of .ambient)

include hambient

/-- All that an answered compile brings to the process's own streams: log records, and then the
report. -/
theorem ambient_of_answer {exitCode : Nat} {lines errLines : List String}
    (h : (options.lineCompile script p).result = .ok (exitCode, lines, errLines)) :
    (run space engineOf args environment p).process.console.ambient .out =
      p.console.ambient .out ++
        (if json then jsonReport exitCode lines errLines ++ "\n" else printLines lines) ∧
    (run space engineOf args environment p).process.console.ambient .err =
      p.console.ambient .err ++ options.logged script p ++
        (if json then "" else printLines errLines) := by
  obtain ⟨hcurrent, hout, herr⟩ := ambient_after (x := options.lineCompile script p) hambient
  obtain ⟨-, hprocess⟩ := run_of_answer json hparse hload hengine h
  obtain ⟨hreport, hreport'⟩ := ambient_printReport hcurrent json exitCode lines errLines
  rw [hprocess, hreport, hreport', hout, herr]
  exact ⟨rfl, rfl⟩

end

/-- An object can be read back, and what it tells is the answer of the compile. -/
theorem answer_of_printsObject (hparse : parse args = .ok { options with json := true })
    (hload : space.load (engineReference options.engine environment) = .ok object)
    (hengine : engineOf object = Script.engine script)
    (hambient : p.console.current = .of .ambient) {exitCode : Nat} {lines errLines : List String}
    (h : (run space engineOf args environment p).PrintsObject p exitCode lines errLines) :
    (options.lineCompile script p).result = .ok (exitCode, lines, errLines) := by
  unfold Outcome.PrintsObject at h
  cases hresult : (options.lineCompile script p).result with
  | ok answer =>
    obtain ⟨exitCode', lines', errLines'⟩ := answer
    obtain ⟨hout, -⟩ := ambient_of_answer true hparse hload hengine hambient hresult
    rw [hout, if_pos rfl, String.append_right_inj, String.append_left_inj] at h
    obtain ⟨rfl, rfl, rfl⟩ := jsonReport_inj h
    rfl
  | error s =>
    -- After an interrupt nothing is printed.
    obtain ⟨-, -, hprocess⟩ := run_of_interrupt true hparse hload hengine hresult
    obtain ⟨-, hout, -⟩ := ambient_after (x := options.lineCompile script p) hambient
    rw [hprocess] at h
    have hnothing : p.console.ambient .out =
        p.console.ambient .out ++ (jsonReport exitCode lines errLines ++ "\n") := hout.symm.trans h
    have hlength := congrArg String.length hnothing
    have hbreak : "\n".length = 1 := rfl
    rw [String.length_append, String.length_append] at hlength
    omega

/-- The tool with the option for an object and without it, from the same state, with an engine around
a script.

If an object is printed, the lines that it tells are what the run without the option prints: first the
log, which is the same in both runs, then every line with a line feed after it, on the side it
belongs to. Both runs have the exit code that the object tells. No line is empty. The lines that were
captured, and those that report an internal error, hold no line break, so that the error lines can
always be read back as they were, and the other lines exactly if no line of a diagnostic holds a line
break. An object is printed unless an interrupt leaves the tool, and then it leaves both runs. -/
theorem run_modes (hjson : parse args = .ok { options with json := true })
    (hplain : parse args' = .ok { options with json := false })
    (hload : space.load (engineReference options.engine environment) = .ok object)
    (hengine : engineOf object = Script.engine script)
    (hambient : p.console.current = .of .ambient) :
    let x := options.lineCompile script p
    let asObject := run space engineOf args environment p
    let asLines := run space engineOf args' environment p
    (∀ exitCode lines errLines, asObject.PrintsObject p exitCode lines errLines →
      asObject.ending = .returned exitCode ∧ asLines.ending = .returned exitCode ∧
      asObject.process.console.ambient .err =
        p.console.ambient .err ++ options.logged script p ∧
      asLines.process.console.ambient .out = p.console.ambient .out ++ printLines lines ∧
      asLines.process.console.ambient .err =
        p.console.ambient .err ++ options.logged script p ++ printLines errLines ∧
      ∃ host diagnostics, x.Reports host diagnostics errLines ∧ lines = host ++ diagnostics ∧
        (∀ line ∈ lines ++ errLines, line ≠ "") ∧
        (∀ line ∈ host ++ errLines, ¬ HasBreak line) ∧
        splitLines (printLines errLines) = errLines ∧
        (splitLines (printLines lines) = lines ↔ ∀ line ∈ diagnostics, ¬ HasBreak line)) ∧
    ((∃ exitCode lines errLines, asObject.PrintsObject p exitCode lines errLines) ∨
      ∃ s : Signal, s.Interrupts ∧ asObject.ending = .signalled s ∧
        asLines.ending = .signalled s) := by
  intro x asObject asLines
  refine ⟨fun exitCode lines errLines hprinted => ?_, ?_⟩
  · have hanswer : x.result = .ok (exitCode, lines, errLines) :=
      answer_of_printsObject hjson hload hengine hambient hprinted
    obtain ⟨hending, -⟩ := run_of_answer true hjson hload hengine hanswer
    obtain ⟨hending', -⟩ := run_of_answer false hplain hload hengine hanswer
    obtain ⟨-, herr⟩ := ambient_of_answer true hjson hload hengine hambient hanswer
    obtain ⟨hout', herr'⟩ := ambient_of_answer false hplain hload hengine hambient hanswer
    obtain ⟨host, diagnostics, hreports, rfl⟩ := LineCompile.exists_reports hanswer
    have hne := hreports.ne_empty
    have hbreak := hreports.not_hasBreak
    refine ⟨hending, hending', herr.trans String.append_empty, hout', herr', host, diagnostics,
      hreports, rfl, hne, hbreak, ?_, ?_⟩
    · rw [splitLines_printLines_eq_iff fun line hline => hne line (List.mem_append_right _ hline)]
      exact fun line hline => hbreak line (List.mem_append_right _ hline)
    · rw [splitLines_printLines_eq_iff fun line hline => hne line (List.mem_append_left _ hline)]
      -- The other lines hold no break in any case.
      constructor
      · exact fun h line hline => h line (List.mem_append_right _ hline)
      · intro h line hline
        rcases List.mem_append.mp hline with hhost | hdiagnostic
        · exact hbreak line (List.mem_append_left _ hhost)
        · exact h line hdiagnostic
  · cases hresult : x.result with
    | ok answer =>
      obtain ⟨hout, -⟩ := ambient_of_answer true hjson hload hengine hambient hresult
      exact .inl ⟨_, _, _, hout⟩
    | error s =>
      obtain ⟨hs, hending, -⟩ := run_of_interrupt true hjson hload hengine hresult
      obtain ⟨-, hending', -⟩ := run_of_interrupt false hplain hload hengine hresult
      exact .inr ⟨s, hs, hending, hending'⟩

end

/-- A registry with one engine, which writes two lines at once, and fails with an error whose text is
two lines as well. -/
def multiline : Registry :=
  [("m", .defined [("e", .engine [.write .out "a\r\nb", .write .err "odd",
    .emit (.short (.bool true) (.text "two\nlines")), .leave (.int 1)])])]

theorem run_modes_multiline :
    let p := Process.start (.directory [])
    let args := ["--engine", "m:e", "a.fs"]
    let lines := ["a", "b", "(0,0): error : two\nlines"]
    (run multiline.space Located.engine ("--json" :: args) none p).PrintsObject p 1 lines ["odd"] ∧
    (run multiline.space Located.engine args none p).ending = .returned 1 ∧
    (run multiline.space Located.engine args none p).process.console.ambient .out =
      printLines lines ∧
    (∃ logged, (run multiline.space Located.engine args none p).process.console.ambient .err =
      logged ++ printLines ["odd"]) ∧
    ∃ host diagnostics, lines = host ++ diagnostics ∧ ∃ line ∈ diagnostics, HasBreak line := by
  intro p args lines
  let options : Options := { engine := some "m:e", commandLine := "a.fs" }
  have hjson : parse ("--json" :: args) = .ok { options with json := true } := rfl
  have hplain : parse args = .ok { options with json := false } := rfl
  have hloads : (multiline.space.load (engineReference options.engine none)).isOk = true := by
    decide +kernel
  have hambient : p.console.current = .of .ambient := rfl
  have hprinted : (run multiline.space Located.engine ("--json" :: args) none p).PrintsObject p 1
      lines ["odd"] := by
    unfold Outcome.PrintsObject
    decide +kernel
  have hchanged : splitLines (printLines lines) ≠ lines := by decide +kernel
  cases hload : multiline.space.load (engineReference options.engine none) with
  | error failure =>
    rw [hload] at hloads
    contradiction
  | ok object =>
    obtain ⟨script, hengine⟩ := object.exists_script
    obtain ⟨hmodes, -⟩ := run_modes hjson hplain hload hengine hambient
    obtain ⟨-, hending, -, hout, herr, host, diagnostics, -, hlines, -, -, -, hiff⟩ :=
      hmodes 1 lines ["odd"] hprinted
    have hbreak : ∃ line ∈ diagnostics, HasBreak line := by
      by_contra hnone
      exact hchanged (hiff.mpr fun line hline hbreak => hnone ⟨line, hline, hbreak⟩)
    exact ⟨hprinted, hending, hout, ⟨_, herr⟩, host, diagnostics, hlines, hbreak⟩

end Cli

end EngineHost
