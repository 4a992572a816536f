import EngineHost.Proofs.Compile.EngineCall
import EngineHost.Proofs.Trace.Parallel

/-!
# Compiles with the lock held

A compile of a command line with the lock held does what the same compile does without it, and the
lock is free again afterwards. Engines can see that the lock is held, in nested calls too, and this
is all there is to see (`LineCompile.serialized_of_free`).

The lock must not be taken a second time in the course of the run, which would wait for ever. It is
not if no step of the script, at any depth, makes a serialized call (`Script.locks_trace`).
-/

namespace EngineHost

/-! ## Scripts that leave the lock alone -/

def Call.isSerialized : Call → Bool
  | .serialized _ _ => true
  | _ => false

mutual

/-- Does the step make a serialized call, itself or in a script inside it? -/
def Step.serializes : Step → Bool
  | .attempt body handler => Script.serializes body || Script.serializes handler
  | .nested _ call script _ _ => call.isSerialized || Script.serializes script
  | _ => false

def Script.serializes : List Step → Bool
  | [] => false
  | step :: rest => step.serializes || Script.serializes rest

end

namespace Compiler

variable {c : Compiler} {t : EngineTrace} {site : CallSite}

-- A call that is not serialized takes the lock only if its engine does.
theorem locks_performTrace (ht : ∀ site invocation p, (t site invocation p).locks = false)
    {call : Call} (hcall : call.isSerialized = false) (p : Process) :
    (c.performTrace t site call p).locks = false := by
  have hrun : ∀ site argv p, (c.runTrace t site argv p).locks = false := by
    intro site argv p
    rw [locks_runTrace, ht]
  have hargs : ∀ site argv p, (c.argsTrace t site argv p).locks = false := by
    intro site argv p
    cases hprepare : prepare c.programName argv with
    | error e =>
      rw [argsTrace, hprepare]
      rfl
    | ok prepared => rw [locks_argsTrace c t site hprepare, hrun]
  cases call with
  | args argv => exact hargs site argv p
  | line directory commandLine =>
    rw [performTrace, locks_lineTrace]
    cases hmove : (p.beginCapture site.depth).changeDirectory directory with
    | error e =>
      rw [inTrace, hmove]
      rfl
    | ok q => rw [locks_inTrace c t site.deeper hmove, hargs]
  | serialized directory commandLine => contradiction
  | run argv => exact hrun site argv p
  | compile argv => exact hrun site argv p

end Compiler

mutual

theorem Step.locks_trace (site : CallSite) (step : Step) (h : step.serializes = false)
    (st : RunState) : (step.trace site st).locks = false := by
  cases step with
  | writeArguments =>
    rw [Step.trace]
    split <;> rfl
  | attempt body handler =>
    rw [Step.serializes, Bool.or_eq_false_iff] at h
    rw [Step.trace, Trace.locks_append, Script.locks_trace site body h.1, Bool.false_or]
    split
    · rfl
    · split
      · exact Script.locks_trace _ handler h.2 _
      · rfl
  | nested supervised call script resolver programName =>
    rw [Step.serializes, Bool.or_eq_false_iff] at h
    have hscript : ∀ (site : CallSite) (invocation : Invocation) (p : Process),
        (Script.trace site script (.start invocation p)).locks = false :=
      fun site invocation p => Script.locks_trace site script h.2 _
    cases supervised with
    | true =>
      exact (Trace.locks_congr (Trace.acts_capture _)).trans
        (Compiler.locks_performTrace hscript h.1 _)
    | false => exact Compiler.locks_performTrace hscript h.1 _
  | _ => rfl

/-- A script without serialized calls does not take the lock, wherever its run comes to. -/
theorem Script.locks_trace (site : CallSite) (script : List Step)
    (h : Script.serializes script = false) (st : RunState) :
    (Script.trace site script st).locks = false := by
  cases script with
  | nil => rfl
  | cons step rest =>
    rw [Script.serializes, Bool.or_eq_false_iff] at h
    rw [Script.trace, Trace.locks_append, Step.locks_trace site step h.1, Bool.false_or]
    split
    · exact Script.locks_trace site rest h.2 _
    · rfl

end

/-! ## The lock around a compile -/

/-- The lock is free in the one process and held in the other. All else is the same. -/
def Likeness.heldInstead : Likeness := ⟨True, fun locked locked' => locked = false ∧ locked' = true⟩

-- With the lock free again there is no difference left.
theorem Process.Parallel.eq_of_heldInstead {p q : Process} (h : p.Parallel .heldInstead q) :
    { q with locked := false } = p := by
  obtain ⟨files, directory, console, locked, verbose⟩ := p
  obtain ⟨hfiles, hdirectory, hverbose, ⟨hfree, -⟩, hconsole⟩ := h
  cases hfiles
  cases hdirectory
  cases hverbose
  cases hfree
  cases hconsole trivial
  rfl

namespace LineCompile

/-- What the engine notes down, with what it notes down of calls of its own. -/
def journal (x : LineCompile) : List Entry :=
  (x.compiler.compileLine x.site x.directory x.commandLine x.process).journal

/-- The same compile with the lock held around it. -/
def serialized (x : LineCompile) : Completion (Nat × List String × List String) :=
  x.compiler.compileLineSerialized x.site x.directory x.commandLine x.process

theorem locks_trace_of_script {x : LineCompile} (h : Script.serializes x.script = false) :
    x.trace.locks = false := by
  have hengine : ∀ site invocation p, (x.script.engineTrace site invocation p).locks = false :=
    fun site invocation p => Script.locks_trace site x.script h _
  have hcall : (Call.line x.directory x.commandLine).isSerialized = false := rfl
  exact Compiler.locks_performTrace hengine hcall x.process

/-- If the lock is free and no call of the run takes it, then a compile of a command line with the
lock held has the result of the one without, an answer or the signal that leaves it. It leaves the
same process behind: working directory, streams and all that was written to them. The engine and the
engines that it calls note down the same, but that they see the lock held wherever they would see it
free. However the call ends, the lock is free again. -/
theorem serialized_of_free (x : LineCompile) (hfree : x.process.locked = false)
    (hlocks : x.trace.locks = false) :
    x.serialized.result = x.result ∧ x.serialized.process = x.after ∧
    JournalsParallel .heldInstead x.journal x.serialized.journal ∧
    x.serialized.process.locked = false := by
  have hsite : x.site.Parallel .heldInstead x.site := ⟨rfl, fun _ => rfl⟩
  have hp : x.process.Parallel .heldInstead { x.process with locked := true } :=
    ⟨rfl, rfl, rfl, ⟨hfree, rfl⟩, fun _ => rfl⟩
  obtain ⟨-, hdone⟩ := x.compiler.compileLine_parallel (x.script.engine_parallel _) hsite hp
    x.directory x.commandLine (Trace.admits_of_locks_eq_false hlocks)
  exact ⟨hdone.result.symm, hdone.process.eq_of_heldInstead, hdone.journal, rfl⟩

/-- A compile whose engine looks at the lock, calls a compiler whose engine does the same, and is
interrupted. -/
def watchful : LineCompile where
  script := [.observe,
    .nested true (.line (.text ".") (.text "b.fs")) [.write .out "inner\n", .observe] none "fsc",
    .changeDirectory (.text "sub"), .raise (.of .interrupt "enough")]
  directory := .text "."
  commandLine := .text "a.fs"
  process := .start (.directory [("sub", .directory [])])

theorem serialized_of_free_watchful :
    watchful.process.locked = false ∧ watchful.trace.locks = false ∧
    watchful.serialized.result.isOk = false ∧ watchful.serialized.journal.length = 3 ∧
    watchful.serialized.result = watchful.result ∧
    watchful.serialized.process = watchful.after ∧
    JournalsParallel .heldInstead watchful.journal watchful.serialized.journal ∧
    watchful.serialized.process.locked = false := by
  have hlocks : watchful.trace.locks = false := locks_trace_of_script (by decide)
  exact ⟨rfl, hlocks, by decide +kernel, by decide +kernel, serialized_of_free watchful rfl hlocks⟩

end LineCompile

end EngineHost
