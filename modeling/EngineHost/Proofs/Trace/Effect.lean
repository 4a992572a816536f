import EngineHost.Proofs.Trace.Course

/-!
# What a trace makes of the process

A run changes the process exactly as its trace says. The streams that stood outside of every capture
made in the run keep their text and are written to in the order of the trace; the current streams
and the captures held before are as they were; the working directory has followed the targets.

`Process.Evolves` states this for a stretch of events. Each operation has one lemma, stretches are
put one after the other by `Evolves.append`, and `Evolves.capture` closes a capture. Calls of a
compiler whose engine keeps to its traces keep to theirs.
-/

namespace EngineHost

/-- Is the owner older than the captures from a number on? -/
def Owner.Below (depth : Nat) : Owner → Prop
  | .ambient => True
  | .capture id => id < depth

/-- The current streams are older than the captures from a number on. -/
def Console.Within (depth : Nat) (c : Console) : Prop :=
  ∀ channel, (c.current.get channel).owner.Below depth

theorem Owner.Below.ne_capture {o : Owner} {id : Nat} (h : o.Below id) : o ≠ .capture id := by
  rintro rfl
  exact Nat.lt_irrefl id h

theorem Owner.Below.succ {o : Owner} {depth : Nat} (h : o.Below depth) : o.Below (depth + 1) := by
  cases o with
  | ambient => trivial
  | capture id => exact Nat.lt_succ_of_lt h

/-- The working directory after it was asked to change to a target. -/
def WorkingDirectory.attempt (files : FileSystem) (d : WorkingDirectory) (target : Value) :
    WorkingDirectory :=
  match d.follow files target with
  | .ok d => d
  | .error _ => d

namespace Process

/-- A stretch of events, with the captures below `depth` held, makes `q` of `p`. -/
structure Evolves (depth : Nat) (es : Trace) (p q : Process) : Prop where
  files : q.files = p.files
  verbose : q.verbose = p.verbose
  current : q.console.current = p.console.current
  saved : ∀ id < depth, q.console.saved id = p.console.saved id
  text : ∀ stream : Stream, stream.owner.Below depth →
    q.console.text stream =
      p.console.text stream ++ es.textOn p.verbose p.console.current stream
  directory : q.directory = es.targets.foldl (WorkingDirectory.attempt p.files) p.directory
  locked : q.locked = (p.locked && !es.locks)

variable {depth : Nat} {es fs : Trace} {p q r : Process}

theorem Evolves.refl (depth : Nat) (p : Process) : Evolves depth [] p p where
  files := rfl
  verbose := rfl
  current := rfl
  saved _ _ := rfl
  text stream _ := by rw [Trace.textOn_nil, String.append_empty]
  directory := rfl
  locked := by simp [Trace.locks, Trace.acts]

theorem Evolves.append (h : Evolves depth es p q) (h' : Evolves depth fs q r) :
    Evolves depth (es ++ fs) p r where
  files := h'.files.trans h.files
  verbose := h'.verbose.trans h.verbose
  current := h'.current.trans h.current
  saved id hid := (h'.saved id hid).trans (h.saved id hid)
  text stream hs := by
    rw [h'.text stream hs, h.text stream hs, h.verbose, h.current, Trace.textOn_append,
      String.append_assoc]
  directory := by
    rw [h'.directory, h.directory, h.files, Trace.targets_append, List.foldl_append]
  locked := by rw [h'.locked, h.locked, Trace.locks_append, Bool.not_or, Bool.and_assoc]

-- Whose acts they are makes no difference to the process.
theorem Evolves.nest (h : Evolves depth es p q) : Evolves depth es.nest p q where
  files := h.files
  verbose := h.verbose
  current := h.current
  saved := h.saved
  text stream hs := by rw [h.text stream hs, Trace.textOn_nest]
  directory := by rw [h.directory, Trace.targets_congr (Trace.acts_nest es)]
  locked := by rw [h.locked, Trace.locks_congr (Trace.acts_nest es)]

/-- The capture of a stretch of events is new, and released at the end: outside of it the console is
as before, but for what goes past the capture. -/
theorem Evolves.capture (h : Evolves (depth + 1) es (p.beginCapture depth) q) :
    Evolves depth es.capture p (q.endCapture depth) := by
  -- The capture is still held and still saves the streams of the caller: no event inside can touch
  -- what was saved at a lower depth than its own.
  have hsaved : q.console.saved depth = some p.console.current := by
    rw [h.saved depth (Nat.lt_succ_self depth)]
    simp [beginCapture, Console.begin, Console.redirect, Console.renew]
  have hrelease : (q.endCapture depth).console =
      { q.console with
        current := p.console.current
        saved := fun other => if other = depth then none else q.console.saved other } := by
    simp only [endCapture, Console.release, hsaved]
  constructor
  · exact h.files
  · exact h.verbose
  · rw [hrelease]
  -- The captures held before are older, so the release lets them be.
  · intro id hid
    have hne : id ≠ depth := Nat.ne_of_lt hid
    rw [hrelease]
    simp only [hne, if_false]
    rw [h.saved id (Nat.lt_succ_of_lt hid)]
    simp [beginCapture, Console.begin, Console.redirect, Console.renew, hne]
  · intro stream hs
    have hother : ∀ channel, (StreamPair.of (.capture depth)).get channel ≠ stream := by
      rintro channel rfl
      cases channel <;> exact hs.ne_capture rfl
    have hbegin : (p.beginCapture depth).console.text stream = p.console.text stream := by
      simp [beginCapture, Console.begin, Console.redirect, Console.renew, hs.ne_capture]
    rw [hrelease, Trace.textOn_capture _ _ _ es hother]
    rw [h.text stream hs.succ, hbegin]
    rfl
  · have hd := h.directory
    rw [← Trace.targets_congr (Trace.acts_capture es)] at hd
    exact hd
  · have hl := h.locked
    rw [← Trace.locks_congr (Trace.acts_capture es)] at hl
    exact hl

/-- A new capture takes in what reaches its console. -/
theorem Evolves.captured (h : Evolves (depth + 1) es (p.beginCapture depth) q) (channel : Channel) :
    q.console.captured depth channel = es.written p.verbose channel := by
  -- The buffers of the capture are empty at first, and older than all captures made inside.
  have hbelow : (Owner.capture depth).Below (depth + 1) := Nat.lt_succ_self depth
  have hempty : (p.beginCapture depth).console.text ⟨.capture depth, channel⟩ = "" := by
    simp [beginCapture, Console.begin, Console.renew]
  have htext := h.text ⟨.capture depth, channel⟩ hbelow
  rw [hempty, String.empty_append] at htext
  have hlog : p.verbose = true → (⟨.capture depth, channel⟩ : Stream) ≠ ⟨.ambient, .err⟩ := by simp
  rw [Console.captured, htext]
  exact Trace.textOn_eq_written p.verbose hlog es

/-- A call that takes the lock gives it back. -/
theorem Evolves.lock (h : Evolves depth es { p with locked := true } q) :
    Evolves depth (Act.called .locked :: es) p { q with locked := false } where
  files := h.files
  verbose := h.verbose
  current := h.current
  saved := h.saved
  text stream hs := by
    rw [h.text stream hs]
    simp [Trace.textOn, Event.textOn, Act.called, Act.textOn]
  directory := h.directory
  locked := by simp [Trace.locks, Trace.acts, Act.called, Act.locks]

theorem evolves_write (p : Process) (channel : Channel) (s : String) :
    Evolves depth [Act.own (.wrote channel s)] p (p.write channel s) where
  files := rfl
  verbose := rfl
  current := rfl
  saved _ _ := rfl
  text stream _ := by
    simp only [write, Console.text_write, Trace.textOn_singleton, Event.textOn, Act.own,
      Act.textOn]
    by_cases h : stream = p.console.current.get channel
    · simp [h]
    · simp [h, Ne.symm h]
  directory := rfl
  locked := by simp [write, Trace.locks, Trace.acts, Act.own, Act.locks]

theorem evolves_log (depth : Nat) (p : Process) (r : LogRecord) :
    Evolves depth [Act.called (.logged r)] p (p.log r) := by
  have hkeep : (p.log r).files = p.files ∧ (p.log r).verbose = p.verbose ∧
      (p.log r).console.current = p.console.current ∧
      (p.log r).console.saved = p.console.saved ∧
      (p.log r).directory = p.directory ∧ (p.log r).locked = p.locked := by
    unfold log
    split
    · exact ⟨rfl, rfl, rfl, rfl, rfl, rfl⟩
    · split <;> exact ⟨rfl, rfl, rfl, rfl, rfl, rfl⟩
  obtain ⟨hfiles, hverbose, hcurrent, hsaved, hdirectory, hlocked⟩ := hkeep
  constructor
  · exact hfiles
  · exact hverbose
  · exact hcurrent
  · intro id _
    rw [hsaved]
  · intro stream _
    simp only [Trace.textOn_singleton, Event.textOn, Act.called, Act.textOn]
    unfold log
    by_cases hv : p.verbose = true
    · rw [if_pos hv]
      simp only [Console.text_append, hv, if_true]
      by_cases hs : stream = ⟨.ambient, .err⟩ <;> simp [hs]
    · rw [if_neg hv]
      cases hl : r.level with
      | debug => simp [hv]
      | warning =>
        simp only [writeLine, write, Console.text_write]
        by_cases hs : stream = p.console.current.get .err
        · simp [hv, hs]
        · simp [hv, hs, Ne.symm hs]
  · exact hdirectory
  · rw [hlocked]
    simp [Trace.locks, Trace.acts, Act.called, Act.locks]

theorem changeDirectory_eq_ok_iff {target : Value} :
    p.changeDirectory target = .ok q ↔
      ∃ d, p.directory.follow p.files target = .ok d ∧ q = { p with directory := d } := by
  unfold changeDirectory
  cases p.directory.follow p.files target with
  | error e => simp [Except.map]
  | ok d => simp [Except.map, eq_comm]

theorem changeDirectory_eq_error_iff {target : Value} {e : DirectoryError} :
    p.changeDirectory target = .error e ↔ p.directory.follow p.files target = .error e := by
  unfold changeDirectory
  cases p.directory.follow p.files target <;> simp [Except.map]

theorem evolves_changeDirectory {place : Place} {target : Value}
    (h : p.changeDirectory target = .ok q) :
    Evolves depth [⟨place, .sought target⟩] p q := by
  obtain ⟨d, hd, rfl⟩ := changeDirectory_eq_ok_iff.mp h
  exact {
    files := rfl
    verbose := rfl
    current := rfl
    saved := fun _ _ => rfl
    text := fun stream _ => by simp [Event.textOn, Act.textOn]
    directory := by
      simp [Trace.targets, Trace.acts, Act.target?, WorkingDirectory.attempt, hd]
    locked := by simp [Trace.locks, Trace.acts, Act.locks] }

-- A change of directory that fails changes nothing.
theorem evolves_of_changeDirectory_error {place : Place} {target : Value} {e : DirectoryError}
    (h : p.changeDirectory target = .error e) :
    Evolves depth [⟨place, .sought target⟩] p p := by
  have hd := changeDirectory_eq_error_iff.mp h
  exact {
    files := rfl
    verbose := rfl
    current := rfl
    saved := fun _ _ => rfl
    text := fun stream _ => by simp [Event.textOn, Act.textOn]
    directory := by
      simp [Trace.targets, Trace.acts, Act.target?, WorkingDirectory.attempt, hd]
    locked := by simp [Trace.locks, Trace.acts, Act.locks] }

end Process

/-- The engine does what its traces say, to the process, its sink and its exit capability. -/
structure Engine.Keeps (e : Engine) (t : EngineTrace) : Prop where
  process : ∀ site invocation p,
    Process.Evolves site.depth (t site invocation p) p (e site invocation p).process
  sink : ∀ site invocation p,
    (e site invocation p).sink = Sink.empty.emitAll (t site invocation p).reports
  exitCode : ∀ site invocation p,
    (e site invocation p).exitCode = (t site invocation p).lastCode (.int 0)

namespace Compiler

variable {c : Compiler} {t : EngineTrace} (h : c.engine.Keeps t) (site : CallSite)

include h

theorem run_evolves (argv : List Value) (p : Process) :
    Process.Evolves site.depth (c.runTrace t site argv p) p (c.run site argv p).process := by
  have hengine := (h.process site { argv, resolver := c.resolver } p).nest
  unfold run runTrace
  cases hending : Termination.ofEnding (c.engine site { argv, resolver := c.resolver } p).exitCode
      (c.engine site { argv, resolver := c.resolver } p).ending with
  | error s =>
    simp only [hending]
    exact hengine.append (Process.Evolves.refl _ _)
  | ok termination =>
    simp only [hending]
    exact hengine.append (Process.evolves_log _ _ _)

theorem compileArgs_evolves (argv : Value) (p : Process) :
    Process.Evolves site.depth (c.argsTrace t site argv p) p (c.compileArgs site argv p).process := by
  unfold compileArgs argsTrace
  cases prepare c.programName argv with
  | error e => exact Process.Evolves.refl _ _
  | ok prepared =>
    obtain ⟨args, flags⟩ := prepared
    have hlog := Process.evolves_log site.depth p (.compiling args flags)
    have hrun := run_evolves h site args (p.log (.compiling args flags))
    simp only [Completion.andThen]
    cases hresult : (c.run site args (p.log (.compiling args flags))).result with
    | error s => exact (hlog.append hrun).append (Process.Evolves.refl _ _)
    | ok answer => exact (hlog.append hrun).append (Process.evolves_log _ _ _)

theorem compileIn_evolves (directory argv : Value) (p : Process) :
    Process.Evolves site.depth (c.inTrace t site directory argv p) p
      (c.compileIn site directory argv p).process := by
  unfold compileIn inTrace
  cases hmove : p.changeDirectory directory with
  | error e => exact Process.evolves_of_changeDirectory_error hmove
  | ok q => exact (Process.evolves_changeDirectory hmove).append (compileArgs_evolves h site argv q)

theorem compileLine_evolves (directory commandLine : Value) (p : Process) :
    Process.Evolves site.depth (c.lineTrace t site directory commandLine p) p
      (c.compileLine site directory commandLine p).process := by
  have hin := (compileIn_evolves h site.deeper directory (lineArguments commandLine)
    (p.beginCapture site.depth)).capture
  unfold compileLine lineTrace
  cases hresult : (c.compileIn site.deeper directory (lineArguments commandLine)
      (p.beginCapture site.depth)).result with
  | ok answer =>
    simp only [hresult]
    exact hin.append (Process.Evolves.refl _ _)
  | error s =>
    simp only [hresult]
    cases hs : s.isOrdinary with
    | true => exact hin.append (Process.evolves_log _ _ _)
    | false => exact hin.append (Process.Evolves.refl _ _)

theorem compileLineSerialized_evolves (directory commandLine : Value) (p : Process) :
    Process.Evolves site.depth (c.serializedTrace t site directory commandLine p) p
      (c.compileLineSerialized site directory commandLine p).process :=
  (compileLine_evolves h site directory commandLine { p with locked := true }).lock

theorem perform_evolves (call : Call) (p : Process) :
    Process.Evolves site.depth (c.performTrace t site call p) p (c.perform site call p).process := by
  cases call with
  | args argv => exact compileArgs_evolves h site argv p
  | line directory commandLine => exact compileLine_evolves h site directory commandLine p
  | serialized directory commandLine =>
    exact compileLineSerialized_evolves h site directory commandLine p
  | run argv => exact run_evolves h site argv p
  | compile argv => exact run_evolves h site argv p

theorem supervise_evolves (call : Call) (p : Process) :
    Process.Evolves site.depth (c.superviseTrace t site call p) p (c.supervise site call p).2 :=
  (perform_evolves h site.deeper call (p.beginCapture site.depth)).capture

end Compiler

end EngineHost
