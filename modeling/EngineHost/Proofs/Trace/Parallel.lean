import EngineHost.Proofs.Trace.Run
import Mathlib.Data.List.Forall2

/-!
# Runs side by side

Two runs of one script take the same course if they start with the same files, the same working
directory and the same kind of log: the console and the lock have no influence on it. The lock shows
in what engines note down of it, and nowhere else.

What else the two runs have in common is a parameter, a `Likeness`: whether their consoles are the
same throughout, and how the two states of the lock are related. A call that takes the lock makes
the two states equal, so that a run may take it only where equal states are related
(`Trace.Admits`).

Main fact: `Script.engine_parallel`.
-/

namespace EngineHost

/-- What is asked of two processes besides the same files, working directory and kind of log. -/
structure Likeness where
  sameConsole : Prop
  lock : Bool → Bool → Prop

/-- The same signal is being handled at both sites; captures have the same numbers if the consoles
are to be the same. -/
structure CallSite.Parallel (k : Likeness) (site site' : CallSite) : Prop where
  handling : site.handling = site'.handling
  depth : k.sameConsole → site.depth = site'.depth

structure Process.Parallel (k : Likeness) (p q : Process) : Prop where
  files : p.files = q.files
  directory : p.directory = q.directory
  verbose : p.verbose = q.verbose
  locked : k.lock p.locked q.locked
  console : k.sameConsole → p.console = q.console

/-- The same was noted down, but for the state of the lock: there the two are related. What was
noted down in a nested call is compared in the same way. -/
inductive Entry.Parallel (k : Likeness) : Entry → Entry → Prop
  | called (argv : List Value) (resolver : Option String) (propagateExit : Bool) :
    Parallel k (.called argv resolver propagateExit) (.called argv resolver propagateExit)
  | observed (exitCode : Value) (errors warnings : Nat) (directory : WorkingDirectory)
    {locked locked' : Bool} (hlocked : k.lock locked locked') :
    Parallel k (.observed exitCode errors warnings locked directory)
      (.observed exitCode errors warnings locked' directory)
  | caught (name text : String) : Parallel k (.caught name text) (.caught name text)
  | nested (result : Except Signal Answer) (out err : String) (restored : Bool)
    (directory : WorkingDirectory) {journal journal' : List Entry} {locked locked' : Bool}
    (hjournal : List.Forall₂ (Parallel k) journal journal') (hlocked : k.lock locked locked') :
    Parallel k (.nested { result, journal, out, err, restored, directory, locked })
      (.nested { result, journal := journal', out, err, restored, directory, locked := locked' })

/-- The journals are the same, entry by entry, but for the state of the lock. -/
abbrev JournalsParallel (k : Likeness) (es fs : List Entry) : Prop :=
  List.Forall₂ (Entry.Parallel k) es fs

structure RunState.Parallel (k : Likeness) (st st' : RunState) : Prop where
  argv : st.argv = st'.argv
  exitCode : st.exitCode = st'.exitCode
  sink : st.sink = st'.sink
  journal : JournalsParallel k st.journal st'.journal
  process : st.process.Parallel k st'.process

structure EngineRun.Parallel (k : Likeness) (r r' : EngineRun) : Prop where
  ending : r.ending = r'.ending
  exitCode : r.exitCode = r'.exitCode
  sink : r.sink = r'.sink
  journal : JournalsParallel k r.journal r'.journal
  process : r.process.Parallel k r'.process

structure Completion.Parallel {α : Type} (k : Likeness) (c c' : Completion α) : Prop where
  result : c.result = c'.result
  journal : JournalsParallel k c.journal c'.journal
  process : c.process.Parallel k c'.process

/-- If the lock is taken in the course of the run, then equal states of it are related. -/
def Trace.Admits (k : Likeness) (es : Trace) : Prop :=
  es.locks = true → ∀ locked, k.lock locked locked

variable {k : Likeness}

/-! ## Operations -/

namespace Trace

variable {es fs : Trace}

theorem Admits.congr (h : es.Admits k) (hlocks : fs.locks = es.locks) : fs.Admits k := by
  intro hfs
  rw [hlocks] at hfs
  exact h hfs

theorem Admits.left (h : Admits k (es ++ fs)) : es.Admits k := by
  intro hes
  apply h
  rw [locks_append, hes, Bool.true_or]

theorem Admits.right (h : Admits k (es ++ fs)) : fs.Admits k := by
  intro hfs
  apply h
  rw [locks_append, hfs, Bool.or_true]

theorem admits_of_refl (h : ∀ locked, k.lock locked locked) (es : Trace) : es.Admits k :=
  fun _ => h

theorem admits_of_locks_eq_false (h : es.locks = false) : es.Admits k := by
  intro hes
  rw [h] at hes
  contradiction

end Trace

namespace CallSite

variable {site site' : CallSite}

theorem Parallel.deeper (h : site.Parallel k site') : site.deeper.Parallel k site'.deeper :=
  ⟨h.handling, fun hk => congrArg (· + 1) (h.depth hk)⟩

theorem Parallel.handle (h : site.Parallel k site') (s : Signal) :
    CallSite.Parallel k { site with handling := some s } { site' with handling := some s } :=
  ⟨rfl, h.depth⟩

theorem Parallel.raise (h : site.Parallel k site') (s : Signal) : site.raise s = site'.raise s := by
  rw [CallSite.raise, CallSite.raise, h.handling]

end CallSite

namespace Process

variable {p q : Process}

theorem Parallel.write (h : p.Parallel k q) (channel : Channel) (s : String) :
    (p.write channel s).Parallel k (q.write channel s) :=
  ⟨h.files, h.directory, h.verbose, h.locked, fun hk => by
    rw [Process.write, Process.write, h.console hk]⟩

theorem Parallel.log (h : p.Parallel k q) (r : LogRecord) : (p.log r).Parallel k (q.log r) := by
  unfold Process.log
  by_cases hq : q.verbose = true
  · rw [if_pos (h.verbose.trans hq), if_pos hq]
    exact ⟨h.files, h.directory, h.verbose, h.locked, fun hk => by rw [h.console hk]⟩
  · rw [if_neg (by rwa [h.verbose]), if_neg hq]
    cases r.level with
    | debug => exact h
    | warning => exact h.write .err _

theorem Parallel.beginCapture (h : p.Parallel k q) {site site' : CallSite}
    (hsite : site.Parallel k site') :
    (p.beginCapture site.depth).Parallel k (q.beginCapture site'.depth) :=
  ⟨h.files, h.directory, h.verbose, h.locked, fun hk => by
    rw [Process.beginCapture, Process.beginCapture, h.console hk, hsite.depth hk]⟩

theorem Parallel.endCapture (h : p.Parallel k q) {site site' : CallSite}
    (hsite : site.Parallel k site') :
    (p.endCapture site.depth).Parallel k (q.endCapture site'.depth) :=
  ⟨h.files, h.directory, h.verbose, h.locked, fun hk => by
    rw [Process.endCapture, Process.endCapture, h.console hk, hsite.depth hk]⟩

theorem Parallel.withLock (h : p.Parallel k q) {locked locked' : Bool}
    (hlock : k.lock locked locked') :
    Parallel k { p with locked } { q with locked := locked' } :=
  ⟨h.files, h.directory, h.verbose, hlock, h.console⟩

/-- Both processes can change to the same directories, and go on side by side. -/
theorem Parallel.changeDirectory (h : p.Parallel k q) (target : Value) :
    (∃ e, p.changeDirectory target = .error e ∧ q.changeDirectory target = .error e) ∨
      ∃ p' q', p.changeDirectory target = .ok p' ∧ q.changeDirectory target = .ok q' ∧
        p'.Parallel k q' := by
  unfold Process.changeDirectory
  rw [h.files, h.directory]
  cases q.directory.follow q.files target with
  | error e => exact .inl ⟨e, rfl, rfl⟩
  | ok d => exact .inr ⟨_, _, rfl, rfl, rfl, rfl, h.verbose, h.locked, h.console⟩

end Process

namespace RunState

variable {st st' : RunState}

theorem start_parallel (invocation : Invocation) {p p' : Process} (hp : p.Parallel k p') :
    RunState.Parallel k (.start invocation p) (.start invocation p') :=
  ⟨rfl, rfl, rfl, .cons (.called _ _ _) .nil, hp⟩

theorem Parallel.note (h : st.Parallel k st') {e e' : Entry} (he : e.Parallel k e') :
    (st.note e).Parallel k (st'.note e') :=
  ⟨h.argv, h.exitCode, h.sink, List.rel_append h.journal (.cons he .nil), h.process⟩

-- The one step that looks at the lock.
theorem Parallel.observe (h : st.Parallel k st') : st.observe.Parallel k st'.observe := by
  rw [RunState.observe, RunState.observe, h.exitCode, h.sink, h.process.directory]
  exact h.note (.observed _ _ _ _ h.process.locked)

theorem Parallel.withProcess (h : st.Parallel k st') {p p' : Process} (hp : p.Parallel k p') :
    RunState.Parallel k { st with process := p } { st' with process := p' } :=
  ⟨h.argv, h.exitCode, h.sink, h.journal, hp⟩

end RunState

/-- The engine keeps to its traces and, wherever it is called, takes the same course in processes
that are parallel. -/
structure Engine.Parallel (k : Likeness) (e : Engine) (t : EngineTrace) : Prop where
  keeps : e.Keeps t
  trace : ∀ (site site' : CallSite) (invocation : Invocation) (p p' : Process),
    site.Parallel k site' → p.Parallel k p' → (t site invocation p).Admits k →
    t site invocation p = t site' invocation p'
  run : ∀ (site site' : CallSite) (invocation : Invocation) (p p' : Process),
    site.Parallel k site' → p.Parallel k p' → (t site invocation p).Admits k →
    (e site invocation p).Parallel k (e site' invocation p')

namespace Completion

variable {α β : Type} {c c' : Completion α}

theorem Parallel.andThen (h : c.Parallel k c') {f : α → Process → β × Process}
    (hf : ∀ a p p', p.Parallel k p' →
      (f a p).1 = (f a p').1 ∧ (f a p).2.Parallel k (f a p').2) :
    (c.andThen f).Parallel k (c'.andThen f) := by
  unfold Completion.andThen
  rw [h.result]
  cases c'.result with
  | error s => exact ⟨rfl, h.journal, h.process⟩
  | ok a =>
    obtain ⟨hresult, hprocess⟩ := hf a _ _ h.process
    exact ⟨congrArg Except.ok hresult, h.journal, hprocess⟩

theorem Parallel.map (h : c.Parallel k c') (f : α → β) : (c.map f).Parallel k (c'.map f) :=
  ⟨congrArg (Except.map f) h.result, h.journal, h.process⟩

theorem failed_parallel {s s' : Signal} (hs : s = s') {p p' : Process} (hp : p.Parallel k p') :
    Completion.Parallel k (failed s p : Completion α) (failed s' p') := by
  rw [hs]
  exact ⟨rfl, .nil, hp⟩

end Completion

/-! ## Calls -/

namespace Compiler

section

variable (c : Compiler) (t : EngineTrace) (site : CallSite)

/-! What a host does around a call of its engine does not take the lock, unless it is asked to. -/

theorem locks_runTrace (argv : List Value) (p : Process) :
    (c.runTrace t site argv p).locks = (t site { argv, resolver := c.resolver } p).locks := by
  rw [runTrace, Trace.locks_append, Trace.locks_congr (Trace.acts_nest _)]
  split <;> exact Bool.or_false _

theorem locks_argsTrace {argv : Value} {p : Process} {args : List Value} {flags : DisplayFlags}
    (h : prepare c.programName argv = .ok (args, flags)) :
    (c.argsTrace t site argv p).locks =
      (c.runTrace t site args (p.log (.compiling args flags))).locks := by
  simp only [argsTrace, h]
  have hcons : ∀ es : Trace, Trace.locks
      (Act.called (.logged (.compiling args flags)) :: es) = es.locks := fun _ => rfl
  rw [List.cons_append, hcons, Trace.locks_append]
  split <;> exact Bool.or_false _

theorem locks_inTrace {directory argv : Value} {p q : Process}
    (h : p.changeDirectory directory = .ok q) :
    (c.inTrace t site directory argv p).locks = (c.argsTrace t site argv q).locks := by
  simp only [inTrace, h]
  rfl

theorem locks_lineTrace (directory commandLine : Value) (p : Process) :
    (c.lineTrace t site directory commandLine p).locks =
      (c.inTrace t site.deeper directory (lineArguments commandLine)
        (p.beginCapture site.depth)).locks := by
  simp only [lineTrace, Trace.locks_append, Trace.locks_congr (Trace.acts_capture _)]
  split
  · exact Bool.or_false _
  · split <;> exact Bool.or_false _

end

variable {c : Compiler} {t : EngineTrace} (h : c.engine.Parallel k t) {site site' : CallSite}
  {p p' : Process} (hsite : site.Parallel k site') (hp : p.Parallel k p')

include h hsite hp

theorem run_parallel (argv : List Value) (hadmits : (c.runTrace t site argv p).Admits k) :
    c.runTrace t site argv p = c.runTrace t site' argv p' ∧
      (c.run site argv p).Parallel k (c.run site' argv p') := by
  have hengine := hadmits.congr (c.locks_runTrace t site argv p).symm
  have htrace := h.trace site site' _ p p' hsite hp hengine
  have hrun := h.run site site' _ p p' hsite hp hengine
  simp only [runTrace, run, htrace, hrun.exitCode, hrun.ending]
  cases Termination.ofEnding (c.engine site' { argv, resolver := c.resolver } p').exitCode
      (c.engine site' { argv, resolver := c.resolver } p').ending with
  | error s => exact ⟨trivial, rfl, hrun.journal, hrun.process⟩
  | ok termination =>
    exact ⟨trivial, by simp only [hrun.sink], hrun.journal,
      hrun.process.log (.terminated termination)⟩

theorem compileArgs_parallel (argv : Value) (hadmits : (c.argsTrace t site argv p).Admits k) :
    c.argsTrace t site argv p = c.argsTrace t site' argv p' ∧
      (c.compileArgs site argv p).Parallel k (c.compileArgs site' argv p') := by
  cases hprepare : prepare c.programName argv with
  | error e =>
    simp only [argsTrace, compileArgs, hprepare, true_and]
    exact Completion.failed_parallel (hsite.raise _) hp
  | ok prepared =>
    obtain ⟨args, flags⟩ := prepared
    obtain ⟨htrace, hrun⟩ := run_parallel h hsite (hp.log (.compiling args flags)) args
      (hadmits.congr (c.locks_argsTrace t site hprepare).symm)
    simp only [argsTrace, compileArgs, hprepare, htrace, hrun.result, true_and]
    apply hrun.andThen
    rintro ⟨termination, sink⟩ q q' hq
    exact ⟨rfl, hq.log (.compiled termination.status _)⟩

theorem compileIn_parallel (directory argv : Value)
    (hadmits : (c.inTrace t site directory argv p).Admits k) :
    c.inTrace t site directory argv p = c.inTrace t site' directory argv p' ∧
      (c.compileIn site directory argv p).Parallel k (c.compileIn site' directory argv p') := by
  obtain ⟨e, he, he'⟩ | ⟨q, q', hq, hq', hparallel⟩ := hp.changeDirectory directory
  · simp only [inTrace, compileIn, he, he', true_and]
    exact Completion.failed_parallel (hsite.raise _) hp
  · obtain ⟨htrace, hargs⟩ := compileArgs_parallel h hsite hparallel argv
      (hadmits.congr (c.locks_inTrace t site hq).symm)
    simp only [inTrace, compileIn, hq, hq', htrace, true_and]
    exact hargs

theorem compileLine_parallel (directory commandLine : Value)
    (hadmits : (c.lineTrace t site directory commandLine p).Admits k) :
    c.lineTrace t site directory commandLine p = c.lineTrace t site' directory commandLine p' ∧
      (c.compileLine site directory commandLine p).Parallel k
        (c.compileLine site' directory commandLine p') := by
  have hbegin := hp.beginCapture hsite
  obtain ⟨htrace, hin⟩ := compileIn_parallel h hsite.deeper hbegin directory
    (lineArguments commandLine)
    (hadmits.congr (c.locks_lineTrace t site directory commandLine p).symm)
  -- Both captures take in what the trace brings to them, whatever their numbers are.
  have htext : ∀ channel,
      (c.compileIn site.deeper directory (lineArguments commandLine)
        (p.beginCapture site.depth)).process.console.captured site.depth channel =
      (c.compileIn site'.deeper directory (lineArguments commandLine)
        (p'.beginCapture site'.depth)).process.console.captured site'.depth channel := by
    intro channel
    have hevolves := compileIn_evolves h.keeps site.deeper directory (lineArguments commandLine)
      (p.beginCapture site.depth)
    have hevolves' := compileIn_evolves h.keeps site'.deeper directory (lineArguments commandLine)
      (p'.beginCapture site'.depth)
    rw [hevolves.captured channel, hevolves'.captured channel, hp.verbose, htrace]
  have hend := hin.process.endCapture hsite
  simp only [lineTrace, compileLine, htrace, hin.result, Console.capturedLines, htext]
  cases (c.compileIn site'.deeper directory (lineArguments commandLine)
      (p'.beginCapture site'.depth)).result with
  | ok answer => exact ⟨trivial, rfl, hin.journal, hend⟩
  | error s =>
    by_cases hs : s.isOrdinary = true
    · simp only [if_pos hs, true_and]
      exact ⟨rfl, hin.journal, hend.log (.fault s)⟩
    · simp only [if_neg hs, true_and]
      exact ⟨rfl, hin.journal, hend⟩

-- Inside, the lock is held in both processes; afterwards it is free in both.
theorem compileLineSerialized_parallel (directory commandLine : Value)
    (hadmits : (c.serializedTrace t site directory commandLine p).Admits k) :
    c.serializedTrace t site directory commandLine p =
        c.serializedTrace t site' directory commandLine p' ∧
      (c.compileLineSerialized site directory commandLine p).Parallel k
        (c.compileLineSerialized site' directory commandLine p') := by
  have hrefl : ∀ locked, k.lock locked locked := hadmits rfl
  obtain ⟨htrace, hline⟩ := compileLine_parallel h hsite (hp.withLock (hrefl true)) directory
    commandLine (Trace.admits_of_refl hrefl _)
  simp only [serializedTrace, htrace, true_and]
  exact ⟨hline.result, hline.journal, hline.process.withLock (hrefl false)⟩

theorem perform_parallel (call : Call) (hadmits : (c.performTrace t site call p).Admits k) :
    c.performTrace t site call p = c.performTrace t site' call p' ∧
      (c.perform site call p).Parallel k (c.perform site' call p') := by
  cases call with
  | args argv =>
    obtain ⟨htrace, hdone⟩ := compileArgs_parallel h hsite hp argv hadmits
    exact ⟨htrace, hdone.map _⟩
  | line directory commandLine =>
    obtain ⟨htrace, hdone⟩ := compileLine_parallel h hsite hp directory commandLine hadmits
    exact ⟨htrace, hdone.map _⟩
  | serialized directory commandLine =>
    obtain ⟨htrace, hdone⟩ :=
      compileLineSerialized_parallel h hsite hp directory commandLine hadmits
    exact ⟨htrace, hdone.map _⟩
  | run argv =>
    obtain ⟨htrace, hdone⟩ := run_parallel h hsite hp argv hadmits
    exact ⟨htrace, hdone.map _⟩
  | compile argv =>
    obtain ⟨htrace, hdone⟩ := run_parallel h hsite hp argv hadmits
    exact ⟨htrace, hdone.map _⟩

/-- All that can be seen of a call is the same, but for the state of the lock. -/
theorem supervise_parallel (call : Call) (hadmits : (c.superviseTrace t site call p).Admits k) :
    c.superviseTrace t site call p = c.superviseTrace t site' call p' ∧
      Entry.Parallel k (.nested (c.supervise site call p).1)
        (.nested (c.supervise site' call p').1) ∧
      (c.supervise site call p).2.Parallel k (c.supervise site' call p').2 := by
  have hbegin := hp.beginCapture hsite
  obtain ⟨htrace, hdone⟩ := perform_parallel h hsite.deeper hbegin call
    (hadmits.congr (Trace.locks_congr (Trace.acts_capture _)).symm)
  have hevolves := perform_evolves h.keeps site.deeper call (p.beginCapture site.depth)
  have hevolves' := perform_evolves h.keeps site'.deeper call (p'.beginCapture site'.depth)
  refine ⟨congrArg Trace.capture htrace, ?_, hdone.process.endCapture hsite⟩
  -- The streams are put back at both consoles.
  simp only [supervise, hevolves.captured, hevolves'.captured, hevolves.current, hevolves'.current,
    hp.verbose, htrace, hdone.result, hdone.process.directory]
  exact .nested _ _ _ _ _ hdone.journal hdone.process.locked

end Compiler

/-! ## Scripts -/

/-- The same signal leaves both, or none leaves either, and the states are parallel. -/
structure RunState.EndParallel (k : Likeness) (x y : Option Signal × RunState) : Prop where
  signal : x.1 = y.1
  state : x.2.Parallel k y.2

-- What the induction gives for a nested script, put as a property of its engine.
private theorem engine_parallel_of_perform {script : Script}
    (h : ∀ (site site' : CallSite) (st st' : RunState), site.Parallel k site' →
      st.Parallel k st' → (Script.trace site script st).Admits k →
      Script.trace site script st = Script.trace site' script st' ∧
        RunState.EndParallel k (Script.perform site script st) (Script.perform site' script st')) :
    (Script.engine script).Parallel k script.engineTrace where
  keeps := script.engine_keeps
  trace site site' invocation p p' hsite hp hadmits :=
    (h site site' _ _ hsite (RunState.start_parallel invocation hp) hadmits).1
  run site site' invocation p p' hsite hp hadmits := by
    obtain ⟨-, hend⟩ := h site site' _ _ hsite (RunState.start_parallel invocation hp) hadmits
    exact ⟨hend.signal, hend.state.exitCode, hend.state.sink, hend.state.journal,
      hend.state.process⟩

mutual

-- By induction on steps and scripts. No step looks at the console, and what `observe` sees of the
-- lock goes into the journal alone.
theorem Step.perform_parallel {site site' : CallSite} (hsite : site.Parallel k site')
    (step : Step) {st st' : RunState} (h : st.Parallel k st')
    (hadmits : (step.trace site st).Admits k) :
    step.trace site st = step.trace site' st' ∧
      RunState.EndParallel k (step.perform site st) (step.perform site' st') := by
  cases step with
  | write channel text => exact ⟨rfl, rfl, h.withProcess (h.process.write channel text)⟩
  | writeArguments =>
    simp only [Step.trace, Step.perform, h.argv, true_and]
    cases joinArguments? 0 st'.argv with
    | ok words => exact ⟨rfl, h.withProcess (h.process.write .out _)⟩
    | error s => exact ⟨congrArg some (hsite.raise s), h⟩
  | emit report =>
    exact ⟨rfl, rfl, h.argv, h.exitCode, congrArg (·.emit report) h.sink, h.journal, h.process⟩
  | exit code =>
    exact ⟨rfl, congrArg some (hsite.raise .stop), h.argv, rfl, h.sink, h.journal, h.process⟩
  | exitQuietly code => exact ⟨rfl, rfl, h.argv, rfl, h.sink, h.journal, h.process⟩
  | leave code => exact ⟨rfl, congrArg some (hsite.raise (.leave code)), h⟩
  | raise s => exact ⟨rfl, congrArg some (hsite.raise s), h⟩
  | appendArgument argument =>
    exact ⟨rfl, rfl, congrArg (· ++ [argument]) h.argv, h.exitCode, h.sink, h.journal, h.process⟩
  | changeDirectory target =>
    refine ⟨rfl, ?_⟩
    simp only [Step.perform]
    obtain ⟨e, he, he'⟩ | ⟨p, p', hp, hp', hparallel⟩ := h.process.changeDirectory target
    · rw [he, he']
      exact ⟨congrArg some (hsite.raise e.signal), h⟩
    · rw [hp, hp']
      exact ⟨rfl, h.withProcess hparallel⟩
  | observe => exact ⟨rfl, rfl, h.observe⟩
  | attempt body handler =>
    simp only [Step.trace] at hadmits
    obtain ⟨htrace, hbody⟩ := Script.perform_parallel hsite body h hadmits.left
    simp only [Step.trace, Step.perform, htrace]
    rcases hperform : Script.perform site body st with ⟨ending, left⟩
    rcases hperform' : Script.perform site' body st' with ⟨ending', left'⟩
    rw [hperform, hperform'] at hbody
    obtain ⟨hending, hleft⟩ := hbody
    change ending = ending' at hending
    subst hending
    cases ending with
    | none => exact ⟨rfl, rfl, hleft⟩
    | some s =>
      by_cases hs : s.isOrdinary = true
      · simp only [hperform, if_pos hs] at hadmits
        simp only [if_pos hs]
        obtain ⟨hcourse, hend⟩ := Script.perform_parallel (hsite.handle s) handler
          (hleft.note (.caught s.name s.text)) hadmits.right
        exact ⟨congrArg _ hcourse, hend⟩
      · simp only [if_neg hs, true_and]
        exact ⟨rfl, hleft⟩
  | nested supervised call script resolver programName =>
    have hengine := engine_parallel_of_perform fun _ _ _ _ hsite hst hadmits =>
      Script.perform_parallel hsite script hst hadmits
    let compiler : Compiler := { engine := Script.engine script, resolver, programName }
    cases supervised with
    | true =>
      obtain ⟨htrace, hreport, hprocess⟩ :=
        compiler.supervise_parallel hengine hsite h.process call hadmits
      exact ⟨htrace, rfl, (h.note hreport).withProcess hprocess⟩
    | false =>
      obtain ⟨htrace, hcall⟩ :=
        compiler.perform_parallel hengine hsite h.process call hadmits
      have hsignal :
          (match (compiler.perform site call st.process).result with
            | .ok _ => none
            | .error s => some s) =
          match (compiler.perform site' call st'.process).result with
            | .ok _ => none
            | .error s => some s := by rw [hcall.result]
      exact ⟨htrace, hsignal, h.argv, h.exitCode, h.sink,
        List.rel_append h.journal hcall.journal, hcall.process⟩

theorem Script.perform_parallel {site site' : CallSite} (hsite : site.Parallel k site')
    (script : List Step) {st st' : RunState} (h : st.Parallel k st')
    (hadmits : (Script.trace site script st).Admits k) :
    Script.trace site script st = Script.trace site' script st' ∧
      RunState.EndParallel k (Script.perform site script st)
        (Script.perform site' script st') := by
  cases script with
  | nil => exact ⟨rfl, rfl, h⟩
  | cons step rest =>
    simp only [Script.trace] at hadmits
    obtain ⟨htrace, hstep⟩ := Step.perform_parallel hsite step h hadmits.left
    simp only [Script.trace, Script.perform, htrace]
    rcases hperform : step.perform site st with ⟨ending, next⟩
    rcases hperform' : step.perform site' st' with ⟨ending', next'⟩
    rw [hperform, hperform'] at hstep
    obtain ⟨hending, hnext⟩ := hstep
    change ending = ending' at hending
    subst hending
    cases ending with
    | none =>
      simp only [hperform] at hadmits
      obtain ⟨hcourse, hend⟩ := Script.perform_parallel hsite rest hnext hadmits.right
      exact ⟨congrArg _ hcourse, hend⟩
    | some s => exact ⟨rfl, rfl, hnext⟩

end

/-- The engine of a script takes the same course in parallel processes. -/
theorem Script.engine_parallel (k : Likeness) (script : Script) :
    (Script.engine script).Parallel k script.engineTrace :=
  engine_parallel_of_perform fun _ _ _ _ hsite h hadmits =>
    Script.perform_parallel hsite script h hadmits

end EngineHost
