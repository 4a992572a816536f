import EngineHost.Cli.Output
import EngineHost.Cli.Parse
import EngineHost.Cli.Path
import EngineHost.Compiler.Basic
import EngineHost.Registry.Load

/-!
# The command line tool

The tool finds an engine, compiles one command line with it, prints the report and answers with the
exit code. It answers with 2 if the engine cannot be found, and leaves the process with 2 if its
arguments cannot be used.
-/

namespace EngineHost.Cli

inductive Ending where
  | returned (code : Nat)
  /-- It leaves the process. -/
  | left (code : Value)
  | signalled (s : Signal)
deriving Repr

namespace Ending

def ofSignal (s : Signal) : Ending :=
  match s.body with
  | .exit code => .left (code.getD .null)
  | _ => .signalled s

/-- The ending of the tool as a program of its own, which leaves the process with its exit code. -/
def asProgram : Ending → Ending
  | returned code => .left (.int code)
  | ending => ending

end Ending

structure Outcome where
  ending : Ending
  journal : List Entry
  process : Process

/-- The exit code for unusable arguments and for engines that cannot be found. -/
def configurationCode : Nat := 2

def printReport (json : Bool) (exitCode : Nat) (lines errLines : List String) (p : Process) :
    Process :=
  if json then p.writeLine .out (jsonReport exitCode lines errLines)
  else (p.write .out (printLines lines)).write .err (printLines errLines)

/-- The reference of the engine: the option if it is not empty, or else the environment's. -/
def engineReference (option environment : Option String) : Option String :=
  match option with
  | none => environment
  | some "" => environment
  | some reference => some reference

/-- The directory to compile in. One that was given as nothing is an empty list, which is no path. -/
def directoryTarget : Option String → Value
  | some path => .text (tidyPath path)
  | none => .list []

def compile (engine : Engine) (options : Options) (p : Process) : Outcome :=
  let compiler : Compiler := { engine }
  let done := compiler.compileLine {} (directoryTarget options.directory)
    (.text options.commandLine) p
  match done.result with
  | .error s => { ending := .ofSignal s, journal := done.journal, process := done.process }
  | .ok (exitCode, lines, errLines) =>
    { ending := .returned exitCode
      journal := done.journal
      process := printReport options.json exitCode lines errLines done.process }

section

variable {ω : Type} (space : ModuleSpace ω) (engineOf : ω → Engine)

def runWith (options : Options) (environment : Option String) (p : Process) : Outcome :=
  let p := { p with verbose := options.verbose }
  match space.load (engineReference options.engine environment) with
  | .error (.refused e) =>
    { ending := .returned configurationCode
      journal := []
      process := p.writeLine .err (errorLabel ++ e.message) }
  | .error (.interrupted s) => { ending := .ofSignal s, journal := [], process := p }
  | .ok object => compile (engineOf object) options p

def run (args : List String) (environment : Option String) (p : Process) : Outcome :=
  match parse args with
  | .error .help =>
    { ending := .left (.int 0), journal := [], process := p.write .out help }
  | .error (.usage e) =>
    { ending := .left (.int configurationCode)
      journal := []
      process := p.write .err (usage ++ errorLabel ++ e.message ++ "\n") }
  | .ok options => runWith space engineOf options environment p

end

end EngineHost.Cli
