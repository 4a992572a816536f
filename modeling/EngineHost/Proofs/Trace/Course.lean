import EngineHost.Proofs.Trace.Basic
import EngineHost.Script.Perform

/-!
# The course of a run

The trace of a call is put together from the trace of its engine and from what the host does around
it. The trace of a script is put together from its steps, as far as they are performed. In the trace
of a call all acts of the engine are those of a call; only a script's own steps are its own.
-/

namespace EngineHost

abbrev EngineTrace := CallSite → Invocation → Process → Trace

namespace Compiler

variable (c : Compiler) (t : EngineTrace) (site : CallSite)

def runTrace (argv : List Value) (p : Process) : Trace :=
  let invocation : Invocation := { argv, resolver := c.resolver }
  let r := c.engine site invocation p
  (t site invocation p).nest ++
    match Termination.ofEnding r.exitCode r.ending with
    -- A signal that goes on to the caller is not logged here.
    | .error _ => []
    | .ok termination => [Act.called (.logged (.terminated termination))]

def argsTrace (argv : Value) (p : Process) : Trace :=
  match prepare c.programName argv with
  | .error _ => []
  | .ok (args, flags) =>
    let p := p.log (.compiling args flags)
    Act.called (.logged (.compiling args flags)) :: c.runTrace t site args p ++
      match (c.run site args p).result with
      | .error _ => []
      | .ok (termination, sink) =>
        let lines := Issue.renderAll flags (Report.settleAll sink.ordered)
        [Act.called (.logged (.compiled termination.status lines.length))]

def inTrace (directory argv : Value) (p : Process) : Trace :=
  Act.called (.sought directory) ::
    match p.changeDirectory directory with
    | .error _ => []
    | .ok p => c.argsTrace t site argv p

/-- The course of a compile of a command line. -/
def lineTrace (directory commandLine : Value) (p : Process) : Trace :=
  let argv := lineArguments commandLine
  let entered := p.beginCapture site.depth
  -- The fault is logged after the capture is released, and so at the caller's console.
  (c.inTrace t site.deeper directory argv entered).capture ++
    match (c.compileIn site.deeper directory argv entered).result with
    | .ok _ => []
    | .error s => if s.isOrdinary then [Act.called (.logged (.fault s))] else []

def serializedTrace (directory commandLine : Value) (p : Process) : Trace :=
  Act.called .locked :: c.lineTrace t site directory commandLine { p with locked := true }

def performTrace (call : Call) (p : Process) : Trace :=
  match call with
  | .args argv => c.argsTrace t site argv p
  | .line directory commandLine => c.lineTrace t site directory commandLine p
  | .serialized directory commandLine => c.serializedTrace t site directory commandLine p
  | .run argv => c.runTrace t site argv p
  | .compile argv => c.runTrace t site argv p

/-- The course of a call from a console of its own. -/
def superviseTrace (call : Call) (p : Process) : Trace :=
  (c.performTrace t site.deeper call (p.beginCapture site.depth)).capture

end Compiler

mutual

def Step.trace (site : CallSite) : Step → RunState → Trace
  | .write channel text, _ => [Act.own (.wrote channel text)]
  | .writeArguments, st =>
    match joinArguments? 0 st.argv with
    | .ok words => [Act.own (.wrote .out ("|".intercalate words ++ "\n"))]
    | .error _ => []
  | .emit report, _ => [Act.own (.emitted report)]
  | .exit code, _ => [Act.own (.recorded code)]
  | .exitQuietly code, _ => [Act.own (.recorded code)]
  | .leave _, _ => []
  | .raise _, _ => []
  | .appendArgument argument, _ => [Act.own (.appended argument)]
  | .changeDirectory target, _ => [Act.own (.sought target)]
  | .observe, _ => []
  | .attempt body handler, st =>
    -- The acts of the body count even if a signal leaves it.
    Script.trace site body st ++
      match Script.perform site body st with
      | (none, _) => []
      | (some s, st) =>
        if s.isOrdinary then
          Script.trace { site with handling := some s } handler (st.note (.caught s.name s.text))
        else []
  | .nested supervised call script resolver programName, st =>
    let compiler : Compiler := { engine := Script.engine script, resolver, programName }
    let t : EngineTrace := fun site invocation p => Script.trace site script (.start invocation p)
    if supervised then compiler.superviseTrace t site call st.process
    else compiler.performTrace t site call st.process

/-- The course of a script, up to the step that a signal leaves. -/
def Script.trace (site : CallSite) : List Step → RunState → Trace
  | [], _ => []
  | step :: rest, st =>
    step.trace site st ++
      match step.perform site st with
      | (none, st) => Script.trace site rest st
      | (some _, _) => []

end

def Script.engineTrace (script : Script) : EngineTrace := fun site invocation p =>
  Script.trace site script (.start invocation p)

end EngineHost
