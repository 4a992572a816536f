import EngineHost.Script.Basic

/-!
# Performing scripts

A script runs step by step until a signal leaves a step. The signal that a handler is handling
becomes the context of every signal raised in the handler, in calls made from there too.
-/

namespace EngineHost

/-- The state of a run: the engine's own argument vector, what it has asked for and reported, and
the process. -/
structure RunState where
  argv : List Value
  exitCode : Value := .int 0
  sink : Sink := .empty
  journal : List Entry := []
  process : Process

namespace RunState

def start (invocation : Invocation) (p : Process) : RunState :=
  { argv := invocation.argv
    journal := [.called invocation.argv invocation.resolver invocation.propagateExit]
    process := p }

def finish (st : RunState) (ending : Option Signal) : EngineRun :=
  { ending, exitCode := st.exitCode, sink := st.sink, journal := st.journal, process := st.process }

def note (st : RunState) (e : Entry) : RunState := { st with journal := st.journal ++ [e] }

def write (st : RunState) (channel : Channel) (s : String) : RunState :=
  { st with process := st.process.write channel s }

def observe (st : RunState) : RunState :=
  st.note (.observed st.exitCode st.sink.errors.length st.sink.warnings.length st.process.locked
    st.process.directory)

end RunState

/-- Texts joined by bars. Everything must be a text; `index` is the place of the first. -/
def joinArguments? (index : Nat) : List Value → Except Signal (List String)
  | [] => .ok []
  | .text s :: rest => (joinArguments? (index + 1) rest).map (s :: ·)
  | v :: _ =>
    .error (.of .type ("sequence item " ++ Number.intText index ++
      ": expected str instance, " ++ v.kindName ++ " found"))

mutual

/-- Perform one step. The signal that leaves it, if any, comes with the state. -/
def Step.perform (site : CallSite) : Step → RunState → Option Signal × RunState
  | .write channel text, st => (none, st.write channel text)
  | .writeArguments, st =>
    match joinArguments? 0 st.argv with
    | .ok words => (none, st.write .out ("|".intercalate words ++ "\n"))
    | .error s => (some (site.raise s), st)
  | .emit report, st => (none, { st with sink := st.sink.emit report })
  | .exit code, st => (some (site.raise .stop), { st with exitCode := code })
  | .exitQuietly code, st => (none, { st with exitCode := code })
  | .leave code, st => (some (site.raise (.leave code)), st)
  | .raise signal, st => (some (site.raise signal), st)
  | .appendArgument argument, st => (none, { st with argv := st.argv ++ [argument] })
  | .changeDirectory target, st =>
    match st.process.changeDirectory target with
    | .ok p => (none, { st with process := p })
    | .error e => (some (site.raise e.signal), st)
  | .observe, st => (none, st.observe)
  | .attempt body handler, st =>
    match Script.perform site body st with
    | (none, st) => (none, st)
    | (some s, st) =>
      if s.isOrdinary then
        -- What the handler raises is raised while `s` is being handled.
        Script.perform { site with handling := some s } handler (st.note (.caught s.name s.text))
      else (some s, st)
  | .nested supervised call script resolver programName, st =>
    let engine : Engine := fun site invocation p =>
      let (ending, st) := Script.perform site script (.start invocation p)
      st.finish ending
    let compiler : Compiler := { engine, resolver, programName }
    if supervised then
      let (report, p) := compiler.supervise site call st.process
      (none, { st.note (.nested report) with process := p })
    else
      let done := compiler.perform site call st.process
      (match done.result with | .ok _ => none | .error s => some s,
        { st with journal := st.journal ++ done.journal, process := done.process })

def Script.perform (site : CallSite) : List Step → RunState → Option Signal × RunState
  | [], st => (none, st)
  | step :: rest, st =>
    match step.perform site st with
    | (none, st) => Script.perform site rest st
    | (some s, st) => (some s, st)

end

def Script.engine (script : Script) : Engine := fun site invocation p =>
  let (ending, st) := Script.perform site script (.start invocation p)
  st.finish ending

end EngineHost
