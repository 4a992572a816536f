import EngineHost.Argument.Program
import EngineHost.CommandLine
import EngineHost.Diagnostic.Normal
import EngineHost.Diagnostic.Render
import EngineHost.Engine.Basic
import EngineHost.Signal.Fault

/-!
# Hosted compilers

A compiler is an engine that is called in the process of its caller as if it were a program: with an
argument vector, or with a working directory and a command line. It answers with an exit code and
the lines that the program would have written: console output first, then one line for every
diagnostic, errors before warnings, in the style that the display switches select.

A call by command line captures the console and absorbs every ordinary signal, which it reports as
an internal error. The working directory is changed and not put back.
-/

namespace EngineHost

/-- The source of log records about calls of engines. -/
def engineLog : String := "fschost.inproc"

/-- The source of log records about calls of compilers. -/
def hostLog : String := "fschost.hosted"

def internalErrorMarker : String := "Internal compiler error"

/-- An engine with what it is always called with. -/
structure Compiler where
  engine : Engine
  resolver : Option String := none
  programName : String := Program.defaultName

inductive Call where
  /-- By argument vector, the console left alone. -/
  | args (argv : Value)
  /-- By working directory and command line. -/
  | line (directory commandLine : Value)
  /-- The same with the lock held. -/
  | serialized (directory commandLine : Value)
  /-- The engine alone, with the argument vector as it is. -/
  | run (argv : List Value)
  /-- The engine alone, and whether it succeeded. -/
  | compile (argv : List Value)
deriving Repr

def DisplayFlags.display (flags : DisplayFlags) : String :=
  "FormatFlags(error_ranges=" ++ (Value.bool flags.errorRanges).literal ++
    ", vs_errors=" ++ (Value.bool flags.editorErrors).literal ++ ")"

namespace LogRecord

def terminated (t : Termination) : LogRecord :=
  { level := .debug, source := engineLog, message := "engine terminated: " ++ t.display }

def compiling (args : List Value) (flags : DisplayFlags) : LogRecord :=
  { level := .debug
    source := hostLog
    message :=
      "compiling in-process: argv=" ++ (Value.list args).literal ++ " flags=" ++ flags.display }

def compiled (exitCode issues : Nat) : LogRecord :=
  { level := .debug
    source := hostLog
    message :=
      "in-process compile finished: exit_code=" ++ Number.intText exitCode ++ " issues=" ++
        Number.intText issues }

def fault (s : Signal) : LogRecord :=
  { level := .warning
    source := hostLog
    message := "internal error during in-process compile: " ++ s.text }

end LogRecord

namespace Compiler

def run (c : Compiler) (site : CallSite) (argv : List Value) (p : Process) :
    Completion (Termination × Sink) :=
  let r := c.engine site { argv, resolver := c.resolver } p
  match Termination.ofEnding r.exitCode r.ending with
  | .error s => { result := .error s, journal := r.journal, process := r.process }
  | .ok t =>
    { result := .ok (t, r.sink)
      journal := r.journal
      process := r.process.log (.terminated t) }

/-- An argument vector with a program argument, and the display switches in it. -/
def prepare (programName : String) (argv : Value) :
    Except ArgumentError (List Value × DisplayFlags) :=
  (Program.ensure programName argv).bind fun args =>
    (DisplayFlags.scan args).map fun flags => (args, flags)

/-- Compile an argument vector: exit code, 0 or 1, and the lines of the diagnostics. -/
def compileArgs (c : Compiler) (site : CallSite) (argv : Value) (p : Process) :
    Completion (Nat × List String) :=
  match prepare c.programName argv with
  | .error e => .failed (site.raise (.of .type e.message)) p
  | .ok (args, flags) =>
    (c.run site args (p.log (.compiling args flags))).andThen fun (termination, sink) p =>
      let exitCode := termination.status
      let lines := Issue.renderAll flags (Report.settleAll sink.ordered)
      ((exitCode, lines), p.log (.compiled exitCode lines.length))

/-- Change the working directory and compile an argument vector. -/
def compileIn (c : Compiler) (site : CallSite) (directory argv : Value) (p : Process) :
    Completion (Nat × List String) :=
  match p.changeDirectory directory with
  | .error e => .failed (site.raise e.signal) p
  | .ok p => c.compileArgs site argv p

def faultReport (s : Signal) : Nat × List String × List String :=
  (1, [internalErrorMarker, s.faultLine], [])

/-- The argument vector on a command line. A command line that is no text is read as it is shown. -/
def lineArguments (commandLine : Value) : Value :=
  .list ((CommandLine.split commandLine.display).map .text)

/-- Compile a command line in a working directory with the console captured: exit code, output
lines followed by the lines of the diagnostics, and error lines. -/
def compileLine (c : Compiler) (site : CallSite) (directory commandLine : Value) (p : Process) :
    Completion (Nat × List String × List String) :=
  let id := site.depth
  let done := c.compileIn site.deeper directory (lineArguments commandLine) (p.beginCapture id)
  let captured := done.process.console
  -- The capture is released before anything is reported, whatever the result is.
  let p := done.process.endCapture id
  match done.result with
  | .ok (exitCode, lines) =>
    { result := .ok (exitCode, captured.capturedLines id .out ++ lines,
        captured.capturedLines id .err)
      journal := done.journal
      process := p }
  | .error s =>
    if s.isOrdinary then
      { result := .ok (faultReport s)
        journal := done.journal
        process := p.log (.fault s) }
    else { result := .error s, journal := done.journal, process := p }

/-- Compile a command line with the lock held. A caller that holds the lock itself would wait for
ever, and no call of that kind comes to an end. -/
def compileLineSerialized (c : Compiler) (site : CallSite) (directory commandLine : Value)
    (p : Process) : Completion (Nat × List String × List String) :=
  let done := c.compileLine site directory commandLine { p with locked := true }
  { done with process := { done.process with locked := false } }

def perform (c : Compiler) (site : CallSite) (call : Call) (p : Process) : Completion Answer :=
  match call with
  | .args argv => (c.compileArgs site argv p).map fun (code, lines) => .args code lines
  | .line directory commandLine =>
    (c.compileLine site directory commandLine p).map fun (code, lines, errLines) =>
      .line code lines errLines
  | .serialized directory commandLine =>
    (c.compileLineSerialized site directory commandLine p).map fun (code, lines, errLines) =>
      .line code lines errLines
  | .run argv =>
    (c.run site argv p).map fun (termination, sink) =>
      .run termination (Report.settleAll sink.errors) (Report.settleAll sink.warnings)
  | .compile argv =>
    (c.run site argv p).map fun (termination, sink) =>
      .compile termination.isSuccess (Report.settleAll sink.ordered)

/-- Make a call from a console of its own and note down all that can be seen of it. -/
def supervise (c : Compiler) (site : CallSite) (call : Call) (p : Process) :
    CallReport Entry × Process :=
  let id := site.depth
  let entered := p.beginCapture id
  let done := c.perform site.deeper call entered
  let console := done.process.console
  ({ result := done.result
     journal := done.journal
     out := console.captured id .out
     err := console.captured id .err
     restored := console.current = entered.console.current
     directory := done.process.directory
     locked := done.process.locked },
   done.process.endCapture id)

end Compiler

end EngineHost
