import EngineHost.Proofs.Compile.EngineCall

/-!
# The answer to a command line

The answer to a command line is a function of what can be observed of the run: how it ended, what
reached the two sides of the console while the capture of the call was the current one, what the
engine reported to its own sink, and the display switches that stood on the command line before the
engine was called.
-/

namespace EngineHost

/-- What the answer to a command line is made of. -/
structure Observation where
  exitCode : Nat
  flags : DisplayFlags
  out : String
  err : String
  errors : List Report
  warnings : List Report

def Observation.answer (o : Observation) : Nat × List String × List String :=
  (o.exitCode,
    Text.splitLines o.out ++ Issue.renderAll o.flags (Report.settleAll (o.errors ++ o.warnings)),
    Text.splitLines o.err)

namespace LineCompile

/-- The call of the engine is observed to go like this. Console and sink are read off the trace of
the run; the display switches are those of the argument vector that the engine is called with. -/
structure Observes (x : LineCompile) (call : EngineCall) (o : Observation) : Prop where
  made : x.call? = some call
  argv : Program.ensure x.programName (Compiler.lineArguments x.commandLine) =
    .ok call.invocation.argv
  flags : DisplayFlags.scan call.invocation.argv = .ok o.flags
  exitCode : ∃ t, Termination.ofEnding (call.lastCode x.script)
    (call.run (Script.engine x.script)).ending = .ok t ∧ o.exitCode = t.status
  out : o.out = (call.trace x.script.engineTrace).written x.process.verbose .out
  err : o.err = (call.trace x.script.engineTrace).written x.process.verbose .err
  errors : o.errors = (call.trace x.script.engineTrace).reports.filter (·.isError)
  warnings : o.warnings = (call.trace x.script.engineTrace).reports.filter (!·.isError)

end LineCompile

namespace Compiler

variable {c : Compiler} {t : EngineTrace} {site : CallSite} {argv directory commandLine : Value}
  {p : Process} {call : EngineCall}

/-! ## The console of the capture -/

-- What the host logs around a call of the engine is for debugging, and goes past the console.
theorem written_called_debug (verbose : Bool) (channel : Channel) {r : LogRecord}
    (h : r.level = .debug) (es : Trace) :
    Trace.written verbose channel (Act.called (.logged r) :: es) = es.written verbose channel := by
  apply Trace.written_cons_of_silent
  simp [Act.called, Act.textTo, h]

theorem written_runTrace (verbose : Bool) (channel : Channel) (args : List Value) :
    (c.runTrace t site args p).written verbose channel =
      (t site { argv := args, resolver := c.resolver } p).written verbose channel := by
  rw [runTrace, Trace.written_append, Trace.written_nest]
  split
  · exact String.append_empty
  · rw [written_called_debug _ _ rfl]
    exact String.append_empty

theorem written_argsTrace (verbose : Bool) (channel : Channel)
    (h : c.argsCall? site argv p = some call) :
    (c.argsTrace t site argv p).written verbose channel =
      (call.trace t).written verbose channel := by
  obtain ⟨args, flags, hprepare, rfl⟩ := argsCall?_eq_some_iff.mp h
  simp only [argsTrace, hprepare]
  rw [List.cons_append, written_called_debug _ _ rfl, Trace.written_append, written_runTrace]
  split
  · exact String.append_empty
  · rw [written_called_debug _ _ rfl]
    exact String.append_empty

theorem written_inTrace (verbose : Bool) (channel : Channel)
    (h : c.lineCall? site directory commandLine p = some call) :
    (c.inTrace t site.deeper directory (lineArguments commandLine)
      (p.beginCapture site.depth)).written verbose channel =
      (call.trace t).written verbose channel := by
  obtain ⟨d, hd, hcall⟩ := lineCall?_eq_some_iff.mp h
  have hmove : (p.beginCapture site.depth).changeDirectory directory =
      .ok { p.beginCapture site.depth with directory := d } :=
    Process.changeDirectory_eq_ok_iff.mpr ⟨d, hd, rfl⟩
  rw [inTrace, Trace.written_cons_of_silent _ _ rfl]
  simp only [hmove]
  exact written_argsTrace verbose channel hcall

/-- The capture has taken in what reached the console in the run of the engine, and no more. -/
theorem captured_guarded (hkeeps : c.engine.Keeps t) (channel : Channel)
    (h : c.lineCall? site directory commandLine p = some call) :
    (c.guarded site directory commandLine p).process.console.captured site.depth channel =
      (call.trace t).written p.verbose channel := by
  have hevolves := compileIn_evolves hkeeps site.deeper directory (lineArguments commandLine)
    (p.beginCapture site.depth)
  rw [guarded, hevolves.captured channel, written_inTrace p.verbose channel h]

end Compiler

/-! ## The sink -/

theorem EngineCall.ordered_run (call : EngineCall) (script : Script) :
    (call.run (Script.engine script)).sink.ordered =
      (call.trace script.engineTrace).reports.filter (·.isError) ++
        (call.trace script.engineTrace).reports.filter (!·.isError) := by
  have hsink : (call.run (Script.engine script)).sink =
      Sink.empty.emitAll (call.trace script.engineTrace).reports :=
    script.engine_keeps.sink call.site call.invocation call.process
  rw [hsink, Sink.emitAll_eq]
  rfl

namespace LineCompile

variable {x : LineCompile} {call : EngineCall} {o : Observation}

theorem result_of_observes (h : x.Observes call o) : x.result = .ok o.answer := by
  obtain ⟨flags, hflags, hguarded⟩ := Script.guarded_result h.made
  have hflags' := h.flags
  rw [hflags] at hflags'
  cases hflags'
  obtain ⟨t, ht, hcode⟩ := h.exitCode
  rw [ht] at hguarded
  rw [result, Compiler.compileLine_result, compiler, hguarded]
  simp only [Except.map, Console.capturedLines, Observation.answer]
  have hcaptured : ∀ channel, ((x.script.compiler x.resolver x.programName).guarded x.site
      x.directory x.commandLine x.process).process.console.captured x.site.depth channel =
      (call.trace x.script.engineTrace).written x.process.verbose channel :=
    fun channel => Compiler.captured_guarded x.script.engine_keeps channel h.made
  rw [hcaptured, hcaptured, ← h.out, ← h.err, hcode, h.errors, h.warnings, call.ordered_run]

theorem exists_observes {d : WorkingDirectory}
    (hd : x.process.directory.follow x.process.files x.directory = .ok d)
    (hsettled : ∀ call, x.call? = some call →
      Settled (call.run (Script.engine x.script)).ending) :
    ∃ call o, x.Observes call o := by
  obtain ⟨call, hcall⟩ := Compiler.exists_lineCall? x.compiler x.site x.commandLine hd
  obtain ⟨t, ht⟩ :=
    Termination.exists_ofEnding_of_settled (call.lastCode x.script) (hsettled call hcall)
  obtain ⟨d', -, hargs⟩ := Compiler.lineCall?_eq_some_iff.mp hcall
  obtain ⟨args, flags, hprepare, rfl⟩ := Compiler.argsCall?_eq_some_iff.mp hargs
  obtain ⟨hensure, hscan⟩ := Compiler.prepare_eq_ok_iff.mp hprepare
  exact ⟨_, ⟨t.status, flags, _, _, _, _⟩, hcall, hensure, hscan, ⟨t, ht, rfl⟩, rfl, rfl, rfl, rfl⟩

end LineCompile

end EngineHost
