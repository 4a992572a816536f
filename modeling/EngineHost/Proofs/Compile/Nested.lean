import EngineHost.Proofs.Compile.Faults
import EngineHost.Proofs.Compile.Observation
import EngineHost.Proofs.Compile.Restoration

/-!
# Nested calls

An engine may call a compiler of its own at any place of its run, and the engine of that compiler
may do the same. `Script.Visits` says which steps a run comes to, in handlers and in the runs of
nested calls too, and in which state. Wherever a nested call stands, the run around it keeps what is
its own: the exit code, the sink, the argument vector and the current streams (`Nested.Isolated`).
-/

namespace EngineHost

/-- A call of a compiler around a script, made by a step of another script. -/
structure Nested where
  supervised : Bool
  call : Call
  script : Script
  resolver : Option String := none
  programName : String := Program.defaultName

/-- Does the call capture the console? -/
def Call.captures : Call → Bool
  | .line _ _ => true
  | .serialized _ _ => true
  | _ => false

/-- The call of the engine that a call of a compiler comes to, if it comes to one. -/
def Compiler.engineCall? (c : Compiler) (site : CallSite) (call : Call) (p : Process) :
    Option EngineCall :=
  match call with
  | .args argv => c.argsCall? site argv p
  | .line directory commandLine => c.lineCall? site directory commandLine p
  | .serialized directory commandLine =>
    c.lineCall? site directory commandLine { p with locked := true }
  | .run argv => some ⟨site, { argv, resolver := c.resolver }, p⟩
  | .compile argv => some ⟨site, { argv, resolver := c.resolver }, p⟩

namespace Nested

def compiler (n : Nested) : Compiler := n.script.compiler n.resolver n.programName

def step (n : Nested) : Step := .nested n.supervised n.call n.script n.resolver n.programName

/-- Is the console captured around the engine, by the call or by who supervises it? -/
def captures (n : Nested) : Bool := n.supervised || n.call.captures

/-- The call of the nested engine, when the step is performed at a site in a process. -/
def engineCall? (n : Nested) (site : CallSite) (p : Process) : Option EngineCall :=
  if n.supervised then n.compiler.engineCall? site.deeper n.call (p.beginCapture site.depth)
  else n.compiler.engineCall? site n.call p

/-- The state of the outer run after the call. -/
def after (n : Nested) (site : CallSite) (before : RunState) : RunState :=
  (n.step.perform site before).2

/-- The signal that leaves the call. -/
def leaving (n : Nested) (site : CallSite) (before : RunState) : Option Signal :=
  (n.step.perform site before).1

end Nested

/-! ## Where a run comes to -/

/-- In the run of the script, from the state `st` on, the step comes to be performed at a site in a
state: in the run itself, or in the run of a call that is made in it. -/
inductive Script.Visits : CallSite → Script → RunState → CallSite → Step → RunState → Prop
  | head {site : CallSite} {step : Step} {rest : Script} {st : RunState} :
    Visits site (step :: rest) st site step st
  | tail {site site' : CallSite} {first step : Step} {rest : Script} {st next st' : RunState}
    (hfirst : first.perform site st = (none, next))
    (h : Visits site rest next site' step st') : Visits site (first :: rest) st site' step st'
  | body {site site' : CallSite} {step : Step} {body handler rest : Script} {st st' : RunState}
    (h : Visits site body st site' step st') :
    Visits site (.attempt body handler :: rest) st site' step st'
  | handler {site site' : CallSite} {step : Step} {body handler rest : Script}
    {st left st' : RunState} {s : Signal} (hbody : Script.perform site body st = (some s, left))
    (hs : s.isOrdinary = true)
    (h : Visits { site with handling := some s } handler (left.note (.caught s.name s.text)) site'
      step st') :
    Visits site (.attempt body handler :: rest) st site' step st'
  | nested {site site' : CallSite} {n : Nested} {step : Step} {rest : Script}
    {st st' : RunState} {call : EngineCall} (hcall : n.engineCall? site st.process = some call)
    (h : Visits call.site n.script (.start call.invocation call.process) site' step st') :
    Visits site (n.step :: rest) st site' step st'

theorem Compiler.within_of_engineCall? {c : Compiler} {site : CallSite} {call : Call} {p : Process}
    {made : EngineCall} (h : c.engineCall? site call p = some made)
    (hwithin : p.console.Within site.depth) : made.process.console.Within made.site.depth := by
  cases call with
  | args argv => exact within_of_argsCall? h hwithin
  | line directory commandLine => exact within_of_lineCall? h
  | serialized directory commandLine => exact within_of_lineCall? h
  | run argv =>
    cases h
    exact hwithin
  | compile argv =>
    cases h
    exact hwithin

theorem Nested.within_of_engineCall? {n : Nested} {site : CallSite} {p : Process}
    {made : EngineCall} (h : n.engineCall? site p = some made)
    (hwithin : p.console.Within site.depth) : made.process.console.Within made.site.depth := by
  unfold engineCall? at h
  split at h
  · exact Compiler.within_of_engineCall? h (p.beginCapture_within site.depth)
  · exact Compiler.within_of_engineCall? h hwithin

/-- Wherever a run comes to, the current streams are older than the captures to come. -/
theorem Script.Visits.within {site site' : CallSite} {script : Script} {step : Step}
    {st st' : RunState} (h : Script.Visits site script st site' step st')
    (hwithin : st.process.console.Within site.depth) :
    st'.process.console.Within site'.depth := by
  induction h with
  | head => exact hwithin
  | @tail site _ first _ _ st _ _ hfirst _ ih =>
    have hevolves := Step.perform_evolves site first st
    rw [hfirst] at hevolves
    exact ih (hevolves.within hwithin)
  | body _ ih => exact ih hwithin
  | @handler site _ _ body _ _ st _ _ _ hbody _ _ ih =>
    have hevolves := Script.perform_evolves site body st
    rw [hbody] at hevolves
    exact ih (hevolves.within hwithin)
  | nested hcall _ ih => exact ih (Nested.within_of_engineCall? hcall hwithin)

/-! ## What a nested call leaves alone -/

/-- A call that leaves the console alone brings to it what its engine writes, if the call comes to
that. -/
theorem Compiler.written_performTrace {c : Compiler} {t : EngineTrace} {site : CallSite}
    {call : Call} {p : Process} (verbose : Bool) (channel : Channel)
    (hcaptures : call.captures = false) :
    (c.performTrace t site call p).written verbose channel =
      match c.engineCall? site call p with
      | some made => (made.trace t).written verbose channel
      | none => "" := by
  cases call with
  | args argv =>
    simp only [performTrace, engineCall?]
    cases hcall : c.argsCall? site argv p with
    | some made => exact written_argsTrace verbose channel hcall
    | none =>
      cases hprepare : prepare c.programName argv with
      | error e =>
        rw [argsTrace, hprepare]
        rfl
      | ok prepared => simp [argsCall?, hprepare] at hcall
  | run argv => exact written_runTrace verbose channel argv
  | compile argv => exact written_runTrace verbose channel argv
  | _ => contradiction

namespace Nested

/-- What the nested engine writes to one side of the console that the call is made at, when the call
leaves the console alone. -/
def writes (n : Nested) (site : CallSite) (before : RunState) (channel : Channel) : String :=
  match n.engineCall? site before.process with
  | some call => (call.trace n.script.engineTrace).written before.process.verbose channel
  | none => ""

/-- What a nested call, made at a site from a state of the outer run, does to that run. -/
structure Isolated (n : Nested) (site : CallSite) (before : RunState) : Prop where
  exitCode : (n.after site before).exitCode = before.exitCode
  sink : (n.after site before).sink = before.sink
  argv : (n.after site before).argv = before.argv
  current : (n.after site before).process.console.current = before.process.console.current
  /-- Log records are all that a call that captures the console adds to the streams outside, be they
  of an outer capture or the process's own. -/
  captured : n.captures = true → ∀ stream : Stream, stream.owner.Below site.depth →
    (n.after site before).process.console.text stream =
      before.process.console.text stream ++
        (n.step.trace site before).records.textOn before.process.verbose
          before.process.console.current stream
  /-- The buffers of an outer capture receive, in order, what the engine of another call writes. -/
  written : n.captures = false → ∀ id, before.process.console.current = .of (.capture id) →
    ∀ channel, (n.after site before).process.console.captured id channel =
      before.process.console.captured id channel ++ n.writes site before channel
  /-- A signal that leaves the call is none that a host settles, and ends the outer run neither as
  stopped nor as a reported failure. -/
  leaving : ∀ s, n.leaving site before = some s →
    ¬ s.Stops ∧ ¬ s.Leaves ∧ ¬ s.SaysReported ∧
      ∀ recorded, Termination.ofEnding recorded (some s) = .error s

variable {n : Nested} {site : CallSite} {before : RunState}

-- The outer run's own things are out of reach of the call.
theorem after_own (n : Nested) (site : CallSite) (before : RunState) :
    (n.after site before).exitCode = before.exitCode ∧
      (n.after site before).sink = before.sink ∧ (n.after site before).argv = before.argv := by
  obtain ⟨supervised, call, script, resolver, programName⟩ := n
  cases supervised <;> exact ⟨rfl, rfl, rfl⟩

theorem evolves (n : Nested) (site : CallSite) (before : RunState) :
    Process.Evolves site.depth (n.step.trace site before) before.process
      (n.after site before).process :=
  (Step.perform_evolves site n.step before).process

/-- All that a call that captures the console brings to the streams outside are log records. -/
theorem textOn_records (hcaptures : n.captures = true) (verbose : Bool) (here : StreamPair)
    (stream : Stream) :
    (n.step.trace site before).records.textOn verbose here stream =
      (n.step.trace site before).textOn verbose here stream := by
  obtain ⟨supervised, call, script, resolver, programName⟩ := n
  have hline := fun directory commandLine p => Trace.textOn_records verbose here stream
    fun _ => (script.compiler resolver programName).captured_or_isRecord_of_mem_lineTrace
      script.engineTrace site directory commandLine p
  cases supervised with
  | true =>
    apply Trace.textOn_records
    intro e he
    obtain ⟨e', -, rfl⟩ := List.mem_map.mp he
    exact .inl rfl
  | false =>
    cases call with
    | line directory commandLine => exact hline directory commandLine before.process
    | serialized directory commandLine =>
      -- To take the lock is no record, but no text either.
      have hlocked : ∀ es : Trace, Trace.textOn verbose here stream (Act.called .locked :: es) =
          es.textOn verbose here stream := by
        intro es
        simp [Trace.textOn, Event.textOn, Act.called, Act.textOn]
      exact (hline directory commandLine _).trans (hlocked _).symm
    | _ => contradiction

theorem written_trace (hcaptures : n.captures = false) (channel : Channel) :
    (n.step.trace site before).written before.process.verbose channel =
      n.writes site before channel := by
  obtain ⟨supervised, call, script, resolver, programName⟩ := n
  cases supervised with
  | true => contradiction
  | false => exact Compiler.written_performTrace before.process.verbose channel hcaptures

/-- A call is left by a fault or an interrupt. -/
theorem isFault_or_interrupts_of_leaving {s : Signal} (h : n.leaving site before = some s) :
    s.IsFault ∨ s.Interrupts := by
  obtain ⟨supervised, call, script, resolver, programName⟩ := n
  cases supervised with
  | true => contradiction
  | false =>
    unfold leaving step at h
    rw [Step.perform] at h
    split at h
    · contradiction
    · simp only at h
      split at h
      · contradiction
      next s' hs' =>
        cases h
        exact Compiler.isFault_or_interrupts_of_perform hs'

theorem leaving_not_settled {s : Signal} (h : n.leaving site before = some s) :
    ¬ s.Stops ∧ ¬ s.Leaves ∧ ¬ s.SaysReported ∧
      ∀ recorded, Termination.ofEnding recorded (some s) = .error s := by
  have hcase := isFault_or_interrupts_of_leaving h
  have hend : ∀ recorded, Termination.ofEnding recorded (some s) = .error s :=
    fun recorded => Termination.ofEnding_eq_error_iff.mpr ⟨rfl, hcase⟩
  -- A host settles each of the three, and so they are none of the signals that go on.
  have hnot : ¬ Settled (some s) := by
    intro hsettled
    obtain ⟨t, ht⟩ := Termination.exists_ofEnding_of_settled .null hsettled
    rw [hend] at ht
    contradiction
  exact ⟨fun hs => hnot (.stopped hs), fun hs => hnot (.left hs), fun hs => hnot (.reported hs),
    hend⟩

theorem isolated (n : Nested) (hwithin : before.process.console.Within site.depth) :
    n.Isolated site before := by
  obtain ⟨hcode, hsink, hargv⟩ := n.after_own site before
  have hevolves := n.evolves site before
  refine ⟨hcode, hsink, hargv, hevolves.current, ?_, ?_, fun s => leaving_not_settled⟩
  · intro hcaptures stream hbelow
    rw [hevolves.text stream hbelow, textOn_records hcaptures]
  · intro hcaptures id hcurrent channel
    have hbelow : (Owner.capture id).Below site.depth := by
      have h := hwithin channel
      rw [hcurrent] at h
      cases channel <;> exact h
    have hlog : before.process.verbose = true →
        (⟨.capture id, channel⟩ : Stream) ≠ ⟨.ambient, .err⟩ := by simp
    rw [Console.captured, hevolves.text _ hbelow, hcurrent, Console.captured,
      ← written_trace hcaptures channel, ← Trace.textOn_eq_written _ hlog]

/-- Wherever a run comes to a nested call, in a handler or in the run of another nested call too,
the call is isolated from the run around it. -/
theorem isolated_of_visits {start : RunState} {outer : CallSite} {script : Script}
    (hwithin : start.process.console.Within outer.depth)
    (h : Script.Visits outer script start site n.step before) : n.Isolated site before :=
  n.isolated (h.within hwithin)

/-- A call that writes to the console and asks to exit. -/
def talkative : Nested where
  supervised := false
  call := .args (.list [.text "b.fs"])
  script := [.write .out "inner\n", .exit (.int 0)]

/-- A run that makes this call while it handles its own exit. -/
def surrounding : Script := [.write .out "begin\n", .attempt [.exit (.int 3)] [talkative.step]]

def surroundingSite : CallSite := { depth := 1 }

def surroundingStart : RunState :=
  .start { argv := [.text "fsc"] } ((Process.start (.directory [])).beginCapture 0)

/-- The state of the run when it has asked to exit. -/
def surroundingExited : RunState :=
  { surroundingStart.write .out "begin\n" with exitCode := .int 3 }

theorem isolated_of_visits_talkative :
    surroundingStart.process.console.Within surroundingSite.depth ∧
    ∃ site before,
      Script.Visits surroundingSite surrounding surroundingStart site talkative.step before ∧
      talkative.Isolated site before ∧ (talkative.after site before).exitCode = .int 3 ∧
      (talkative.after site before).process.console.captured 0 .out = "begin\ninner\n" := by
  have hwithin : surroundingStart.process.console.Within surroundingSite.depth :=
    Process.beginCapture_within _ 0
  have hexit : Script.perform surroundingSite [.exit (.int 3)]
      (surroundingStart.write .out "begin\n") =
      (some (surroundingSite.raise .stop), surroundingExited) := rfl
  have hvisits : Script.Visits surroundingSite surrounding surroundingStart _ talkative.step _ :=
    .tail rfl (.handler hexit rfl .head)
  have hisolated := isolated_of_visits hwithin hvisits
  refine ⟨hwithin, _, _, hvisits, hisolated, hisolated.exitCode, ?_⟩
  rw [hisolated.written rfl 0 rfl .out]
  decide +kernel

end Nested

end EngineHost
