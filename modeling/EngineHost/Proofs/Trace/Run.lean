import EngineHost.Proofs.Trace.Effect

/-!
# Runs of scripts and their traces

A run of a script changes the process as its trace says, and its own sink, exit code and argument
vector by the acts of its own engine alone. So the engine of a script keeps to the traces of the
script (`Script.engine_keeps`), whatever calls its steps make.
-/

namespace EngineHost

namespace Compiler

variable (c : Compiler) (t : EngineTrace) (site : CallSite)

/-! No act of a call is one of the caller's own engine. -/

theorem own_runTrace (argv : List Value) (p : Process) : (c.runTrace t site argv p).own = [] := by
  simp only [runTrace, Trace.own_append, Trace.own_nest, List.nil_append]
  split <;> rfl

theorem own_argsTrace (argv : Value) (p : Process) : (c.argsTrace t site argv p).own = [] := by
  have hcons : ∀ (a : Act) (es : Trace), Trace.own (a.called :: es) = es.own := fun _ _ => rfl
  unfold argsTrace
  split
  · rfl
  · simp only [List.cons_append, hcons, Trace.own_append, own_runTrace, List.nil_append]
    split <;> rfl

theorem own_lineTrace (directory commandLine : Value) (p : Process) :
    (c.lineTrace t site directory commandLine p).own = [] := by
  simp only [lineTrace, Trace.own_append, Trace.own_capture, List.nil_append]
  split
  · rfl
  · split <;> rfl

theorem own_performTrace (call : Call) (p : Process) :
    (c.performTrace t site call p).own = [] := by
  cases call with
  | args argv => exact own_argsTrace c t site argv p
  | line directory commandLine => exact own_lineTrace c t site directory commandLine p
  | serialized directory commandLine =>
    exact own_lineTrace c t site directory commandLine { p with locked := true }
  | run argv => exact own_runTrace c t site argv p
  | compile argv => exact own_runTrace c t site argv p

end Compiler

/-- A stretch of events, with the captures below `depth` held, makes `st'` of the run `st`. -/
structure RunState.Evolves (depth : Nat) (es : Trace) (st st' : RunState) : Prop where
  process : Process.Evolves depth es st.process st'.process
  sink : st'.sink = st.sink.emitAll es.reports
  exitCode : st'.exitCode = es.lastCode st.exitCode
  argv : st'.argv = st.argv ++ es.arguments

namespace RunState

variable {depth : Nat} {es fs : Trace} {st st' st'' : RunState}

theorem Evolves.refl (depth : Nat) (st : RunState) : Evolves depth [] st st where
  process := .refl depth st.process
  sink := rfl
  exitCode := rfl
  argv := (List.append_nil _).symm

theorem Evolves.append (h : Evolves depth es st st') (h' : Evolves depth fs st' st'') :
    Evolves depth (es ++ fs) st st'' where
  process := h.process.append h'.process
  sink := by rw [h'.sink, h.sink, Trace.reports_append, Sink.emitAll, Sink.emitAll,
    ← List.foldl_append, Sink.emitAll]
  exitCode := by rw [h'.exitCode, h.exitCode, Trace.lastCode_append]
  argv := by rw [h'.argv, h.argv, Trace.arguments_append, List.append_assoc]

-- A stretch without acts of the run's own engine changes nothing but the process.
theorem Evolves.of_own_eq_nil (hown : es.own = [])
    (h : Process.Evolves depth es st.process st'.process) (hsink : st'.sink = st.sink)
    (hcode : st'.exitCode = st.exitCode) (hargv : st'.argv = st.argv) :
    Evolves depth es st st' where
  process := h
  sink := by rw [hsink, Trace.reports_of_own_eq_nil hown]; rfl
  exitCode := by rw [hcode, Trace.lastCode_of_own_eq_nil hown]
  argv := by rw [hargv, Trace.arguments_of_own_eq_nil hown, List.append_nil]

theorem Evolves.note (h : Evolves depth es st st') (e : Entry) :
    Evolves depth es st (st'.note e) :=
  ⟨h.process, h.sink, h.exitCode, h.argv⟩

end RunState

-- An act of the run's own engine that leaves the process alone.
private theorem evolves_own {depth : Nat} {a : Act} {st st' : RunState}
    (hp : st'.process = st.process) (htext : ∀ verbose here stream,
      a.textOn verbose here stream = "") (htarget : a.target? = none) (hlocks : a.locks = false) :
    Process.Evolves depth [a.own] st.process st'.process := by
  rw [hp]
  exact {
    files := rfl
    verbose := rfl
    current := rfl
    saved := fun _ _ => rfl
    text := fun stream _ => by simp [Event.textOn, Act.own, htext]
    directory := by simp [Trace.targets, Trace.acts, Act.own, htarget]
    locked := by simp [Trace.locks, Trace.acts, Act.own, hlocks] }

-- What the induction gives for a nested script, put as a property of its engine.
private theorem keeps_of_evolves {script : Script}
    (h : ∀ site (st : RunState), st.Evolves site.depth (Script.trace site script st)
      (Script.perform site script st).2) :
    (Script.engine script).Keeps script.engineTrace where
  process site invocation p := (h site (.start invocation p)).process
  sink site invocation p := (h site (.start invocation p)).sink
  exitCode site invocation p := (h site (.start invocation p)).exitCode

mutual

-- By induction on steps and scripts: what a nested script or a handler does to its run is known when
-- the step that holds it is looked at.
theorem Step.perform_evolves (site : CallSite) (step : Step) (st : RunState) :
    st.Evolves site.depth (step.trace site st) (step.perform site st).2 := by
  cases step with
  | write channel text =>
    exact ⟨Process.evolves_write st.process channel text, rfl, rfl, (List.append_nil _).symm⟩
  | writeArguments =>
    simp only [Step.trace, Step.perform]
    cases joinArguments? 0 st.argv with
    | ok words => exact ⟨Process.evolves_write _ _ _, rfl, rfl, (List.append_nil _).symm⟩
    | error s => exact .refl _ _
  | emit report =>
    exact ⟨evolves_own rfl (fun _ _ _ => rfl) rfl rfl, rfl, rfl, (List.append_nil _).symm⟩
  | exit code =>
    exact ⟨evolves_own rfl (fun _ _ _ => rfl) rfl rfl, rfl, rfl, (List.append_nil _).symm⟩
  | exitQuietly code =>
    exact ⟨evolves_own rfl (fun _ _ _ => rfl) rfl rfl, rfl, rfl, (List.append_nil _).symm⟩
  | leave code => exact .refl _ _
  | raise s => exact .refl _ _
  | appendArgument argument =>
    exact ⟨evolves_own rfl (fun _ _ _ => rfl) rfl rfl, rfl, rfl, rfl⟩
  | changeDirectory target =>
    simp only [Step.trace, Step.perform]
    cases hmove : st.process.changeDirectory target with
    | ok p =>
      exact ⟨Process.evolves_changeDirectory hmove, rfl, rfl, (List.append_nil _).symm⟩
    | error e =>
      exact ⟨Process.evolves_of_changeDirectory_error hmove, rfl, rfl, (List.append_nil _).symm⟩
  | observe => exact (RunState.Evolves.refl _ st).note _
  | attempt body handler =>
    have hbody := Script.perform_evolves site body st
    simp only [Step.trace, Step.perform]
    rcases hperform : Script.perform site body st with ⟨_ | s, st'⟩
    · rw [hperform] at hbody
      exact hbody.append (.refl _ _)
    · rw [hperform] at hbody
      cases hs : s.isOrdinary with
      | true =>
        simp only [hs, if_true]
        -- The handler goes on from where the body was left.
        exact (hbody.note _).append
          (Script.perform_evolves { site with handling := some s } handler _)
      | false =>
        simp only [hs, Bool.false_eq_true, if_false]
        exact hbody.append (.refl _ _)
  | nested supervised call script resolver programName =>
    have hkeeps := keeps_of_evolves fun site st => Script.perform_evolves site script st
    let compiler : Compiler := { engine := Script.engine script, resolver, programName }
    cases supervised with
    -- Either way the call acts on the process alone: the run's own sink, exit code and argument vector
    -- are out of its reach.
    | true =>
      have hcall := compiler.supervise_evolves hkeeps site call st.process
      exact .of_own_eq_nil (Trace.own_capture _) hcall rfl rfl rfl
    | false =>
      have hcall := compiler.perform_evolves hkeeps site call st.process
      exact .of_own_eq_nil (compiler.own_performTrace _ site call st.process) hcall rfl rfl rfl

/-- A run changes as its trace says. -/
theorem Script.perform_evolves (site : CallSite) (script : List Step) (st : RunState) :
    st.Evolves site.depth (Script.trace site script st) (Script.perform site script st).2 := by
  cases script with
  | nil => exact .refl _ _
  | cons step rest =>
    have hstep := Step.perform_evolves site step st
    simp only [Script.trace, Script.perform]
    rcases hperform : step.perform site st with ⟨_ | s, st'⟩
    · rw [hperform] at hstep
      exact hstep.append (Script.perform_evolves site rest st')
    · rw [hperform] at hstep
      exact hstep.append (.refl _ _)

end

/-- The engine of a script keeps to the traces of the script. -/
theorem Script.engine_keeps (script : Script) :
    (Script.engine script).Keeps script.engineTrace :=
  keeps_of_evolves fun site st => Script.perform_evolves site script st

end EngineHost
