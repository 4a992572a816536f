import EngineHost.Proofs.Compile.EngineCall

/-!
# Which signals leave a compile, and which are reported

A compile of a command line lets interrupts pass and nothing else. A fault of the engine, or a
directory that cannot be changed to, is absorbed and reported in two lines, whatever the run has
written, reported or asked to exit with. Every other ending is settled and answered.
-/

namespace EngineHost

/-- The signal comes up while the console is captured, and is none that the host settles. -/
inductive Compiler.Faults (c : Compiler) (site : CallSite) (directory commandLine : Value)
    (p : Process) : Signal → Prop
  /-- The directory cannot be changed to. -/
  | directory {e : DirectoryError} (h : p.directory.follow p.files directory = .error e) :
    Faults c site directory commandLine p (site.raise e.signal)
  /-- The run of the engine ends in a fault. -/
  | engine {call : EngineCall} {s : Signal}
    (hcall : c.lineCall? site directory commandLine p = some call)
    (hending : (call.run c.engine).ending = some s) (hfault : s.IsFault) :
    Faults c site directory commandLine p s

/-- The run of the engine ends in an interrupt. -/
def Compiler.Interrupted (c : Compiler) (site : CallSite) (directory commandLine : Value)
    (p : Process) (s : Signal) : Prop :=
  ∃ call, c.lineCall? site directory commandLine p = some call ∧
    (call.run c.engine).ending = some s ∧ s.Interrupts

/-- The signal that a compile of a command line absorbs, if any: it takes the way of an internal
error exactly when there is one. -/
def Compiler.absorbed? (c : Compiler) (site : CallSite) (directory commandLine : Value)
    (p : Process) : Option Signal :=
  match (c.guarded site directory commandLine p).result with
  | .ok _ => none
  | .error s => if s.isOrdinary then some s else none

theorem DirectoryError.isOrdinary_raise (site : CallSite) (e : DirectoryError) :
    (site.raise e.signal).isOrdinary = true := by
  -- Raising adds a context at most.
  have hraise : (site.raise e.signal).isOrdinary = e.signal.isOrdinary := by
    unfold CallSite.raise Signal.raiseWhile
    cases site.handling <;> rfl
  rw [hraise]
  cases e with
  | system reason target => cases reason <;> rfl
  | _ => rfl

theorem Completion.result_of_map_error {α β : Type} {f : α → β} {done : Completion α} {s : Signal}
    (h : (done.map f).result = .error s) : done.result = .error s := by
  unfold Completion.map at h
  cases hresult : done.result with
  | ok a => simp [hresult, Except.map] at h
  | error s' => simpa [hresult, Except.map] using h

namespace Compiler

variable {c : Compiler} {site : CallSite} {directory commandLine : Value} {p : Process}

-- The signals that end the captured part are the faults and the interrupts of the engine.
theorem guarded_result_eq_error_iff {s : Signal} :
    (c.guarded site directory commandLine p).result = .error s ↔
      c.Faults site directory commandLine p s ∨ c.Interrupted site directory commandLine p s := by
  constructor
  · intro h
    cases hd : p.directory.follow p.files directory with
    | error e =>
      rw [guarded_result_of_error hd] at h
      cases h
      exact .inl (.directory hd)
    | ok d =>
      obtain ⟨call, hcall⟩ := exists_lineCall? c site commandLine hd
      obtain ⟨flags, -, hresult⟩ := guarded_result hcall
      rw [hresult] at h
      cases hsettle : Termination.ofEnding (call.run c.engine).exitCode
          (call.run c.engine).ending with
      | ok t =>
        rw [hsettle] at h
        simp [Except.map] at h
      | error s' =>
        rw [hsettle] at h
        cases h
        obtain ⟨hending, hfault | hinterrupts⟩ := Termination.ofEnding_eq_error_iff.mp hsettle
        · exact .inl (.engine hcall hending hfault)
        · exact .inr ⟨call, hcall, hending, hinterrupts⟩
  · -- A signal that is not settled goes through unchanged.
    have hthrough : ∀ call, c.lineCall? site directory commandLine p = some call →
        (call.run c.engine).ending = some s → s.IsFault ∨ s.Interrupts →
        (c.guarded site directory commandLine p).result = .error s := by
      intro call hcall hending hs
      obtain ⟨flags, -, hresult⟩ := guarded_result hcall
      rw [hresult, Termination.ofEnding_eq_error_iff.mpr ⟨hending, hs⟩]
      rfl
    rintro (hfaults | ⟨call, hcall, hending, hinterrupts⟩)
    · cases hfaults with
      | directory h => exact guarded_result_of_error h
      | engine hcall hending hfault => exact hthrough _ hcall hending (.inl hfault)
    · exact hthrough call hcall hending (.inr hinterrupts)

theorem Faults.isOrdinary {s : Signal} (h : c.Faults site directory commandLine p s) :
    s.isOrdinary = true := by
  cases h with
  | directory _ => exact DirectoryError.isOrdinary_raise site _
  | engine _ _ hfault => exact (s.isFault_iff.mp hfault).1

theorem Interrupted.not_isOrdinary {s : Signal}
    (h : c.Interrupted site directory commandLine p s) : s.isOrdinary = false := by
  obtain ⟨-, -, -, hinterrupts⟩ := h
  exact hinterrupts.not_isOrdinary

theorem absorbed?_eq_some_iff_result {s : Signal} :
    c.absorbed? site directory commandLine p = some s ↔
      (c.guarded site directory commandLine p).result = .error s ∧ s.isOrdinary = true := by
  unfold absorbed?
  cases (c.guarded site directory commandLine p).result with
  | ok answer => simp
  | error s' =>
    by_cases hs' : s'.isOrdinary = true
    · simp only [hs', if_true, Option.some.injEq, Except.error.injEq]
      constructor
      · rintro rfl
        exact ⟨rfl, hs'⟩
      · exact fun h => h.1
    · simp only [hs', Bool.false_eq_true, if_false, reduceCtorEq, Except.error.injEq, false_iff,
        not_and]
      rintro rfl
      exact hs'

theorem absorbed?_eq_some_iff {s : Signal} :
    c.absorbed? site directory commandLine p = some s ↔
      c.Faults site directory commandLine p s := by
  rw [absorbed?_eq_some_iff_result, guarded_result_eq_error_iff]
  constructor
  · rintro ⟨hfaults | hinterrupted, hordinary⟩
    · exact hfaults
    · rw [hinterrupted.not_isOrdinary] at hordinary
      contradiction
  · exact fun h => ⟨.inl h, h.isOrdinary⟩

/-- A signal that is absorbed is reported on two lines and in the log, after the console is put back.
What the run wrote, reported or asked for leaves no trace in the answer. -/
theorem compileLine_of_absorbed {s : Signal}
    (h : c.absorbed? site directory commandLine p = some s) :
    c.compileLine site directory commandLine p =
      { result := .ok (1, [internalErrorMarker, s.faultLine], [])
        journal := (c.guarded site directory commandLine p).journal
        process :=
          ((c.guarded site directory commandLine p).process.endCapture site.depth).log
            (.fault s) } := by
  obtain ⟨hresult, hordinary⟩ := absorbed?_eq_some_iff_result.mp h
  unfold guarded at hresult
  unfold compileLine
  simp only [hresult, hordinary, if_true]
  rfl

-- Without one, the end of the capture is the end of the call.
theorem compileLine_process_of_absorbed_eq_none
    (h : c.absorbed? site directory commandLine p = none) :
    (c.compileLine site directory commandLine p).process =
      (c.guarded site directory commandLine p).process.endCapture site.depth := by
  unfold absorbed? guarded at h
  unfold compileLine
  cases hresult : (c.compileIn site.deeper directory (lineArguments commandLine)
      (p.beginCapture site.depth)).result with
  | ok answer =>
    simp only [hresult]
    rfl
  | error s =>
    rw [hresult] at h
    have hordinary : ¬ s.isOrdinary = true := by
      intro hs
      simp [hs] at h
    simp only [hresult, if_neg hordinary]
    rfl

theorem compileLine_result_eq_error_iff {s : Signal} :
    (c.compileLine site directory commandLine p).result = .error s ↔
      c.Interrupted site directory commandLine p s := by
  have hpass : (c.compileLine site directory commandLine p).result = .error s ↔
      (c.guarded site directory commandLine p).result = .error s ∧ s.isOrdinary = false := by
    rw [compileLine_result]
    cases (c.guarded site directory commandLine p).result with
    | ok answer => simp
    | error s' =>
      by_cases hs' : s'.isOrdinary = true
      · simp only [hs', if_true, reduceCtorEq, Except.error.injEq, false_iff, not_and]
        rintro rfl
        simp [hs']
      · simp only [hs', Bool.false_eq_true, if_false, Except.error.injEq]
        constructor
        · rintro rfl
          exact ⟨rfl, Bool.eq_false_iff.mpr hs'⟩
        · exact fun h => h.1
  rw [hpass, guarded_result_eq_error_iff]
  constructor
  · rintro ⟨hfaults | hinterrupted, hordinary⟩
    · rw [hfaults.isOrdinary] at hordinary
      contradiction
    · exact hinterrupted
  · exact fun h => ⟨.inr h, h.not_isOrdinary⟩

/-! ## Signals that leave a call

A call is left by a fault or by an interrupt, never by a signal that a host would settle.
-/

theorem isFault_of_argumentError (site : CallSite) (e : ArgumentError) :
    (site.raise (.of .type e.message)).IsFault := by
  have hraise : (site.raise (.of .type e.message)).body = .plain .type (some e.message) := by
    unfold CallSite.raise Signal.raiseWhile
    cases site.handling <;> rfl
  rw [Signal.isFault_iff]
  simp [Signal.isOrdinary, SignalKind.isOrdinary, Signal.isStop, Signal.isReported,
    Signal.isReportedItself, SignalKind.isReported, hraise]

theorem isFault_or_interrupts_of_run {args : List Value} {s : Signal}
    (h : (c.run site args p).result = .error s) : s.IsFault ∨ s.Interrupts := by
  have hsettle : Termination.ofEnding
      (c.engine site { argv := args, resolver := c.resolver } p).exitCode
      (c.engine site { argv := args, resolver := c.resolver } p).ending = .error s := by
    simp only [run] at h
    split at h
    next s' hs' =>
      cases h
      exact hs'
    next => simp at h
  exact (Termination.ofEnding_eq_error_iff.mp hsettle).2

theorem isFault_or_interrupts_of_compileArgs {argv : Value} {s : Signal}
    (h : (c.compileArgs site argv p).result = .error s) : s.IsFault ∨ s.Interrupts := by
  unfold compileArgs at h
  split at h
  next e he =>
    cases h
    exact .inl (isFault_of_argumentError site e)
  next args flags hprepare =>
    unfold Completion.andThen at h
    split at h
    next s' hs' =>
      cases h
      exact isFault_or_interrupts_of_run hs'
    next => simp at h

theorem isFault_or_interrupts_of_perform {call : Call} {s : Signal}
    (h : (c.perform site call p).result = .error s) : s.IsFault ∨ s.Interrupts := by
  have hline : ∀ {directory commandLine : Value} {q : Process},
      (c.compileLine site directory commandLine q).result = .error s →
      s.IsFault ∨ s.Interrupts := by
    intro directory commandLine q hq
    obtain ⟨-, -, -, hinterrupts⟩ := compileLine_result_eq_error_iff.mp hq
    exact .inr hinterrupts
  cases call with
  | args argv => exact isFault_or_interrupts_of_compileArgs (Completion.result_of_map_error h)
  | line directory commandLine => exact hline (Completion.result_of_map_error h)
  | serialized directory commandLine =>
    exact hline (q := { p with locked := true }) (Completion.result_of_map_error h)
  | run argv => exact isFault_or_interrupts_of_run (Completion.result_of_map_error h)
  | compile argv => exact isFault_or_interrupts_of_run (Completion.result_of_map_error h)

/-- A compile of a command line lets through exactly the interrupts of the engine, each as it is. It
absorbs exactly the faults, and answers them with two lines, whatever went before; in every other
case it answers as well. What counts is the body of a signal: one that says that a failure has been
reported is no fault, bare or in one wrapping, but in a second wrapping it is, as is a wrapped
signal of the exit capability, and neither a cause nor a context makes a difference. -/
theorem compileLine_signals (c : Compiler) (site : CallSite) (directory commandLine : Value)
    (p : Process) :
    (∀ s, (c.compileLine site directory commandLine p).result = .error s ↔
      c.Interrupted site directory commandLine p s) ∧
    (∀ s, c.absorbed? site directory commandLine p = some s ↔
      c.Faults site directory commandLine p s) ∧
    (∀ s, c.absorbed? site directory commandLine p = some s →
      c.compileLine site directory commandLine p =
        { result := .ok (1, [internalErrorMarker, s.faultLine], [])
          journal := (c.guarded site directory commandLine p).journal
          process :=
            ((c.guarded site directory commandLine p).process.endCapture site.depth).log
              (.fault s) }) ∧
    (c.absorbed? site directory commandLine p = none →
      (c.compileLine site directory commandLine p).process =
        (c.guarded site directory commandLine p).process.endCapture site.depth) ∧
    ((∀ s, ¬ c.Interrupted site directory commandLine p s) →
      ∃ answer, (c.compileLine site directory commandLine p).result = .ok answer) ∧
    (∀ s : Signal, s.isReported = true ↔ s.SaysReported) ∧
    (∀ s inner : Signal, s.body = .wrapped inner →
      (inner.Stops ∨ ∃ core, inner.body = .wrapped core) → s.IsFault) ∧
    ∀ (s : Signal) (raised : Bool) (cause context : Option Signal),
      ({ s with raised, cause, context } : Signal).IsFault ↔ s.IsFault := by
  refine ⟨fun s => compileLine_result_eq_error_iff, fun s => absorbed?_eq_some_iff,
    fun s => compileLine_of_absorbed, compileLine_process_of_absorbed_eq_none, ?_,
    fun s => s.saysReported_iff.symm, ?_, fun s raised cause context => Signal.isFault_congr rfl⟩
  · intro hnone
    cases hresult : (c.compileLine site directory commandLine p).result with
    | ok answer => exact ⟨answer, rfl⟩
    | error s => exact absurd (compileLine_result_eq_error_iff.mp hresult) (hnone s)
  · rintro s inner hbody (hstops | ⟨core, hinner⟩)
    · exact Signal.isFault_of_wrapped hbody hstops.not_isReport
    · exact Signal.isFault_of_wrapped hbody (Signal.not_isReport_of_wrapped hinner)

end Compiler

end EngineHost
