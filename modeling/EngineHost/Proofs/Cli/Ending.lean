import EngineHost.Cli.Run
import EngineHost.Proofs.Compile.ExitCode
import EngineHost.Registry.Basic

/-!
# How the tool ends

The tool answers with 2 exactly if its engine cannot be found. Nothing has happened then but for one
line to the current error stream: no engine was called, and a directory that cannot be changed to is
not even looked at. With an engine it answers with the exit code of the compile, whatever code the
engine asked to exit with, or an interrupt leaves it.
-/

namespace EngineHost

namespace Cli

theorem Ending.ofSignal_of_interrupts {s : Signal} (h : s.Interrupts) :
    Ending.ofSignal s = .signalled s := by
  obtain ⟨kind, message, hbody, -⟩ := h
  simp only [ofSignal, hbody]

theorem Ending.ofSignal_ne_returned (s : Signal) (code : Nat) :
    Ending.ofSignal s ≠ .returned code := by
  unfold ofSignal
  split <;> simp

/-! ## The compile of the tool -/

/-- The compile that the tool makes with an engine. -/
def toolCompile (engine : Engine) (options : Options) (p : Process) :
    Completion (Nat × List String × List String) :=
  ({ engine } : Compiler).compileLine {} (directoryTarget options.directory)
    (.text options.commandLine) { p with verbose := options.verbose }

section

variable {ω : Type} {space : ModuleSpace ω} {engineOf : ω → Engine} {args : List String}
  {options : Options} {environment : Option String} {p : Process}

theorem run_of_refused (hparse : parse args = .ok options) {e : LoadError}
    (h : space.load (engineReference options.engine environment) = .error (.refused e)) :
    run space engineOf args environment p =
      { ending := .returned configurationCode
        journal := []
        process := ({ p with verbose := options.verbose } : Process).writeLine .err
          (errorLabel ++ e.message) } := by
  simp only [run, hparse, runWith, h]

theorem run_of_loaded (hparse : parse args = .ok options) {object : ω}
    (h : space.load (engineReference options.engine environment) = .ok object) :
    run space engineOf args environment p =
      match (toolCompile (engineOf object) options p).result with
      | .error s =>
        { ending := .ofSignal s
          journal := (toolCompile (engineOf object) options p).journal
          process := (toolCompile (engineOf object) options p).process }
      | .ok (exitCode, lines, errLines) =>
        { ending := .returned exitCode
          journal := (toolCompile (engineOf object) options p).journal
          process := printReport options.json exitCode lines errLines
            (toolCompile (engineOf object) options p).process } := by
  simp only [run, hparse, runWith, h]
  rfl

theorem toolCompile_result_eq_error {engine : Engine} {s : Signal}
    (h : (toolCompile engine options p).result = .error s) : s.Interrupts := by
  obtain ⟨-, -, -, hinterrupts⟩ := Compiler.compileLine_result_eq_error_iff.mp h
  exact hinterrupts

theorem ending_of_loaded (engineOf : ω → Engine) (p : Process)
    (hparse : parse args = .ok options) {object : ω}
    (h : space.load (engineReference options.engine environment) = .ok object) :
    (∃ code lines errLines,
      (toolCompile (engineOf object) options p).result = .ok (code, lines, errLines) ∧
        (code = 0 ∨ code = 1) ∧ (run space engineOf args environment p).ending = .returned code) ∨
    ∃ s, (toolCompile (engineOf object) options p).result = .error s ∧ s.Interrupts ∧
      (run space engineOf args environment p).ending = .signalled s := by
  rw [run_of_loaded hparse h]
  cases hresult : (toolCompile (engineOf object) options p).result with
  | ok answer =>
    obtain ⟨code, lines, errLines⟩ := answer
    exact .inl ⟨code, lines, errLines, rfl, Compiler.exitCode_compileLine hresult, rfl⟩
  | error s =>
    have hinterrupts := toolCompile_result_eq_error hresult
    exact .inr ⟨s, rfl, hinterrupts, Ending.ofSignal_of_interrupts hinterrupts⟩

theorem ending_eq_configurationCode_iff (hparse : parse args = .ok options) :
    (run space engineOf args environment p).ending = .returned configurationCode ↔
      ∃ e, space.load (engineReference options.engine environment) = .error (.refused e) := by
  constructor
  · intro hending
    cases hload : space.load (engineReference options.engine environment) with
    | ok object =>
      -- No compile has this exit code.
      obtain ⟨code, -, -, -, hcode, hcompile⟩ | ⟨s, -, -, hcompile⟩ :=
        ending_of_loaded engineOf p hparse hload
      · rw [hcompile, Ending.returned.injEq, configurationCode] at hending
        omega
      · rw [hcompile] at hending
        contradiction
    | error failure =>
      cases failure with
      | refused e => exact ⟨e, rfl⟩
      | interrupted s =>
        simp only [run, hparse, runWith, hload] at hending
        exact absurd hending (Ending.ofSignal_ne_returned s _)
  · rintro ⟨e, he⟩
    rw [run_of_refused hparse he]

/-- Whatever the tool's arguments, environment and modules are, once the arguments are read.

The engine is the one named by the option, if this is a text that is not empty, or else by the
environment. The tool answers with 2 exactly if that reference is refused. Then, whatever engines
there are, none is called; the line of the error goes to the current error stream and nothing to any
other stream, and directory, files, lock and streams are as before. With an engine the tool answers
with the exit code of the compile, which is 0 or 1, unless an interrupt leaves the compile, which then
leaves the tool. -/
theorem run_ending (space : ModuleSpace ω) (engineOf : ω → Engine) (environment : Option String)
    (p : Process) (hparse : parse args = .ok options) :
    let reference := engineReference options.engine environment
    let outcome := run space engineOf args environment p
    (∀ name, name ≠ "" → options.engine = some name → reference = some name) ∧
    (options.engine = none ∨ options.engine = some "" → reference = environment) ∧
    (outcome.ending = .returned 2 ↔ ∃ e, space.load reference = .error (.refused e)) ∧
    (∀ e, space.load reference = .error (.refused e) →
      (∀ engineOf' : ω → Engine, run space engineOf' args environment p = outcome) ∧
      outcome.journal = [] ∧
      (∀ stream, outcome.process.console.text stream =
        if stream = p.console.current.err then
          p.console.text stream ++ ("fschost: error: " ++ e.message ++ "\n")
        else p.console.text stream) ∧
      outcome.process.console.current = p.console.current ∧
      outcome.process.console.saved = p.console.saved ∧
      outcome.process.directory = p.directory ∧
      outcome.process.files = p.files ∧
      outcome.process.locked = p.locked) ∧
    ∀ object, space.load reference = .ok object →
      (∃ code lines errLines,
        (toolCompile (engineOf object) options p).result = .ok (code, lines, errLines) ∧
          (code = 0 ∨ code = 1) ∧ outcome.ending = .returned code) ∨
      ∃ s, (toolCompile (engineOf object) options p).result = .error s ∧ s.Interrupts ∧
        outcome.ending = .signalled s := by
  intro reference outcome
  refine ⟨?_, ?_, ending_eq_configurationCode_iff hparse, ?_,
    fun object => ending_of_loaded engineOf p hparse⟩
  · intro name hname hoption
    simp only [reference, hoption, engineReference]
  · rintro (hoption | hoption)
    · simp only [reference, hoption, engineReference]
    · simp only [reference, hoption, engineReference]
  · intro e he
    have houtcome : outcome = _ := run_of_refused hparse he
    refine ⟨fun engineOf' => ?_, ?_⟩
    · rw [houtcome]
      exact run_of_refused hparse he
    · rw [houtcome]
      refine ⟨rfl, fun stream => ?_, rfl, rfl, rfl, rfl, rfl⟩
      simp only [Process.writeLine, Process.write, Console.text_write]
      rfl

end

/-- A registry with one engine, which asks to leave the process with the code for engines that cannot
be found. -/
def misleading : Registry :=
  [("m", .defined [("e", .engine [.write .err "begin\n", .leave (.int 2)])])]

/-- Without a reference the tool answers with 2 before it looks at the directory; with a reference to
the engine it does not. -/
theorem run_ending_misleading :
    let p := Process.start (.directory [])
    let args := ["-C", "missing", "--engine", "", "a.fs"]
    let options : Options :=
      { directory := some "missing", engine := some "", commandLine := "a.fs" }
    parse args = .ok options ∧
    (p.directory.follow p.files (directoryTarget options.directory)).isOk = false ∧
    (run misleading.space Located.engine args none p).ending = .returned 2 ∧
    (run misleading.space Located.engine args none p).process.console.ambient .out = "" ∧
    (run misleading.space Located.engine args (some "m:e") p).ending ≠ .returned 2 := by
  intro p args options
  have hparse : parse args = .ok options := rfl
  have hnone : misleading.space.load (engineReference options.engine none) =
      .error (.refused .unconfigured) := rfl
  have hsome : (misleading.space.load (engineReference options.engine (some "m:e"))).isOk = true := by
    decide +kernel
  obtain ⟨-, -, hcode, hrefused, -⟩ := run_ending misleading.space Located.engine none p hparse
  obtain ⟨-, -, htext, -⟩ := hrefused _ hnone
  obtain ⟨-, -, hcode', -⟩ := run_ending misleading.space Located.engine (some "m:e") p hparse
  refine ⟨hparse, by decide +kernel, hcode.mpr ⟨_, hnone⟩, htext ⟨.ambient, .out⟩, ?_⟩
  rw [Ne, hcode']
  rintro ⟨e, he⟩
  rw [he] at hsome
  contradiction

end Cli

end EngineHost
