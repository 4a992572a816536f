import EngineHost.Proofs.Argument.Texts
import EngineHost.Proofs.Signal.Endings
import EngineHost.Proofs.Trace.Run

/-!
# The call of the engine in a compile

A compile comes to one call of the engine, unless its arguments or its directory stop it before.
What the compile answers is decided by the run that this call makes: `compileArgs_result` and
`compileLine_result` read the answer off the run.
-/

namespace EngineHost

/-- A call of an engine: where it is made, with what, and in which process. -/
structure EngineCall where
  site : CallSite
  invocation : Invocation
  process : Process

namespace EngineCall

def run (call : EngineCall) (e : Engine) : EngineRun := e call.site call.invocation call.process

def trace (call : EngineCall) (t : EngineTrace) : Trace :=
  t call.site call.invocation call.process

/-- The code that the run of a script asked to exit with last; 0 if it did not ask. -/
def lastCode (call : EngineCall) (script : Script) : Value :=
  (call.trace script.engineTrace).lastCode (.int 0)

theorem run_exitCode (call : EngineCall) (script : Script) :
    (call.run (Script.engine script)).exitCode = call.lastCode script :=
  script.engine_keeps.exitCode call.site call.invocation call.process

end EngineCall

/-- A compiler around a script. -/
def Script.compiler (script : Script) (resolver : Option String) (programName : String) :
    Compiler :=
  { engine := Script.engine script, resolver, programName }

@[simp] theorem Script.engine_compiler (script : Script) (resolver : Option String)
    (programName : String) :
    (script.compiler resolver programName).engine = Script.engine script := rfl

namespace Compiler

/-- The call of the engine that a compile of an argument vector comes to. -/
def argsCall? (c : Compiler) (site : CallSite) (argv : Value) (p : Process) : Option EngineCall :=
  match prepare c.programName argv with
  | .error _ => none
  | .ok (args, flags) =>
    some {
      site
      invocation := { argv := args, resolver := c.resolver }
      process := p.log (.compiling args flags) }

def lineCall? (c : Compiler) (site : CallSite) (directory commandLine : Value) (p : Process) :
    Option EngineCall :=
  match (p.beginCapture site.depth).changeDirectory directory with
  | .error _ => none
  | .ok p => c.argsCall? site.deeper (lineArguments commandLine) p

/-- The part of a compile of a command line that runs with the console captured. -/
def guarded (c : Compiler) (site : CallSite) (directory commandLine : Value) (p : Process) :
    Completion (Nat × List String) :=
  c.compileIn site.deeper directory (lineArguments commandLine) (p.beginCapture site.depth)

variable {c : Compiler} {site : CallSite} {argv directory commandLine : Value} {p : Process}
  {call : EngineCall}

/-! ## Arguments -/

theorem argsCall?_eq_some_iff :
    c.argsCall? site argv p = some call ↔
      ∃ args flags, prepare c.programName argv = .ok (args, flags) ∧
        call = ⟨site, { argv := args, resolver := c.resolver }, p.log (.compiling args flags)⟩ := by
  unfold argsCall?
  cases prepare c.programName argv with
  | error e => simp
  | ok prepared =>
    obtain ⟨args, flags⟩ := prepared
    simp only [Option.some.injEq, Except.ok.injEq, Prod.mk.injEq]
    constructor
    · rintro rfl
      exact ⟨args, flags, ⟨rfl, rfl⟩, rfl⟩
    · rintro ⟨_, _, ⟨rfl, rfl⟩, rfl⟩
      rfl

theorem prepare_eq_ok_iff {programName : String} {args : List Value} {flags : DisplayFlags} :
    prepare programName argv = .ok (args, flags) ↔
      Program.ensure programName argv = .ok args ∧ DisplayFlags.scan args = .ok flags := by
  unfold prepare
  cases Program.ensure programName argv with
  | error e => simp [Except.bind]
  | ok ensured =>
    cases hscan : DisplayFlags.scan ensured with
    | error e =>
      simp only [Except.bind, hscan, Except.map, Except.ok.injEq, reduceCtorEq, false_iff, not_and]
      rintro rfl
      simp [hscan]
    | ok found =>
      simp only [Except.bind, hscan, Except.map, Except.ok.injEq, Prod.mk.injEq]
      constructor
      · rintro ⟨rfl, rfl⟩
        exact ⟨rfl, hscan⟩
      · rintro ⟨rfl, h⟩
        rw [hscan] at h
        exact ⟨rfl, Except.ok.inj h⟩

/-- The answer to an argument vector, read off the run of the engine. -/
theorem compileArgs_result (h : c.argsCall? site argv p = some call) :
    ∃ flags, DisplayFlags.scan call.invocation.argv = .ok flags ∧
      (c.compileArgs site argv p).result =
        (Termination.ofEnding (call.run c.engine).exitCode (call.run c.engine).ending).map
          fun t => (t.status,
            Issue.renderAll flags (Report.settleAll (call.run c.engine).sink.ordered)) := by
  obtain ⟨args, flags, hprepare, rfl⟩ := argsCall?_eq_some_iff.mp h
  -- The display switches were read before the call; the engine has no hold on them.
  refine ⟨flags, (prepare_eq_ok_iff.mp hprepare).2, ?_⟩
  simp only [compileArgs, hprepare, Completion.andThen, run, EngineCall.run]
  split
  next s hs =>
    split at hs
    next s' hending =>
      cases hs
      rw [hending]
      rfl
    next => simp at hs
  next answer hs =>
    split at hs
    next => simp at hs
    next t hending =>
      cases hs
      rw [hending]
      rfl

/-! ## Command lines -/

theorem lineCall?_eq_some_iff :
    c.lineCall? site directory commandLine p = some call ↔
      ∃ d, p.directory.follow p.files directory = .ok d ∧
        c.argsCall? site.deeper (lineArguments commandLine)
          { p.beginCapture site.depth with directory := d } = some call := by
  unfold lineCall?
  cases hmove : (p.beginCapture site.depth).changeDirectory directory with
  | error e =>
    have he := Process.changeDirectory_eq_error_iff.mp hmove
    change p.directory.follow p.files directory = .error e at he
    simp [he]
  | ok q =>
    obtain ⟨d, hd, rfl⟩ := Process.changeDirectory_eq_ok_iff.mp hmove
    change p.directory.follow p.files directory = .ok d at hd
    simp [hd]

/-- In a directory that can be changed to, every command line comes to a call of the engine. -/
theorem exists_lineCall? (c : Compiler) (site : CallSite) (commandLine : Value)
    {d : WorkingDirectory} (hd : p.directory.follow p.files directory = .ok d) :
    ∃ call, c.lineCall? site directory commandLine p = some call := by
  have hprepare := prepare_texts c.programName (CommandLine.split commandLine.display)
  refine ⟨_, lineCall?_eq_some_iff.mpr ⟨d, hd, argsCall?_eq_some_iff.mpr ⟨_, _, hprepare, rfl⟩⟩⟩

theorem guarded_of_error {e : DirectoryError}
    (h : p.directory.follow p.files directory = .error e) :
    c.guarded site directory commandLine p =
      .failed (site.raise e.signal) (p.beginCapture site.depth) := by
  have hmove : (p.beginCapture site.depth).changeDirectory directory = .error e :=
    Process.changeDirectory_eq_error_iff.mpr h
  rw [guarded, compileIn, hmove]
  rfl

theorem guarded_result_of_error {e : DirectoryError}
    (h : p.directory.follow p.files directory = .error e) :
    (c.guarded site directory commandLine p).result = .error (site.raise e.signal) := by
  rw [guarded_of_error h]
  rfl

theorem guarded_eq_compileArgs {d : WorkingDirectory}
    (h : p.directory.follow p.files directory = .ok d) :
    c.guarded site directory commandLine p =
      c.compileArgs site.deeper (lineArguments commandLine)
        { p.beginCapture site.depth with directory := d } := by
  have hmove : (p.beginCapture site.depth).changeDirectory directory =
      .ok { p.beginCapture site.depth with directory := d } :=
    Process.changeDirectory_eq_ok_iff.mpr ⟨d, h, rfl⟩
  rw [guarded, compileIn, hmove]

theorem guarded_result (h : c.lineCall? site directory commandLine p = some call) :
    ∃ flags, DisplayFlags.scan call.invocation.argv = .ok flags ∧
      (c.guarded site directory commandLine p).result =
        (Termination.ofEnding (call.run c.engine).exitCode (call.run c.engine).ending).map
          fun t => (t.status,
            Issue.renderAll flags (Report.settleAll (call.run c.engine).sink.ordered)) := by
  obtain ⟨d, hd, hcall⟩ := lineCall?_eq_some_iff.mp h
  rw [guarded_eq_compileArgs hd]
  exact compileArgs_result hcall

/-- The answer to a command line, read off the part that runs with the console captured. -/
theorem compileLine_result (c : Compiler) (site : CallSite) (directory commandLine : Value)
    (p : Process) :
    (c.compileLine site directory commandLine p).result =
      match (c.guarded site directory commandLine p).result with
      | .ok (exitCode, lines) =>
        let console := (c.guarded site directory commandLine p).process.console
        .ok (exitCode, console.capturedLines site.depth .out ++ lines,
          console.capturedLines site.depth .err)
      | .error s => if s.isOrdinary then .ok (faultReport s) else .error s := by
  unfold compileLine
  cases h : (c.guarded site directory commandLine p).result with
  | ok answer =>
    unfold guarded at h
    simp only [h]
    rfl
  | error s =>
    unfold guarded at h
    simp only [h]
    split <;> rfl

end Compiler

/-! ## Compilers around scripts

Of what a script has asked to exit with, the code recorded last is all that the answer depends on.
-/

namespace Script

variable {script : Script} {resolver : Option String} {programName : String} {site : CallSite}
  {argv directory commandLine : Value} {p : Process} {call : EngineCall}

theorem compileArgs_result
    (h : (script.compiler resolver programName).argsCall? site argv p = some call) :
    ∃ flags, DisplayFlags.scan call.invocation.argv = .ok flags ∧
      ((script.compiler resolver programName).compileArgs site argv p).result =
        (Termination.ofEnding (call.lastCode script) (call.run (Script.engine script)).ending).map
          fun t => (t.status, Issue.renderAll flags
            (Report.settleAll (call.run (Script.engine script)).sink.ordered)) := by
  have hresult := Compiler.compileArgs_result h
  rwa [engine_compiler, call.run_exitCode] at hresult

theorem guarded_result
    (h : (script.compiler resolver programName).lineCall? site directory commandLine p =
      some call) :
    ∃ flags, DisplayFlags.scan call.invocation.argv = .ok flags ∧
      ((script.compiler resolver programName).guarded site directory commandLine p).result =
        (Termination.ofEnding (call.lastCode script) (call.run (Script.engine script)).ending).map
          fun t => (t.status, Issue.renderAll flags
            (Report.settleAll (call.run (Script.engine script)).sink.ordered)) := by
  have hresult := Compiler.guarded_result h
  rwa [engine_compiler, call.run_exitCode] at hresult

end Script

/-- A compile of a command line by a compiler around a script. -/
structure LineCompile where
  script : Script
  resolver : Option String := none
  programName : String := Program.defaultName
  site : CallSite := {}
  directory : Value
  commandLine : Value
  process : Process

namespace LineCompile

def compiler (x : LineCompile) : Compiler := x.script.compiler x.resolver x.programName

def call? (x : LineCompile) : Option EngineCall :=
  x.compiler.lineCall? x.site x.directory x.commandLine x.process

def result (x : LineCompile) : Except Signal (Nat × List String × List String) :=
  (x.compiler.compileLine x.site x.directory x.commandLine x.process).result

def after (x : LineCompile) : Process :=
  (x.compiler.compileLine x.site x.directory x.commandLine x.process).process

def trace (x : LineCompile) : Trace :=
  x.compiler.lineTrace x.script.engineTrace x.site x.directory x.commandLine x.process

end LineCompile

end EngineHost
