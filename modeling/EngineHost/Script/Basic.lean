import EngineHost.Compiler.Basic

/-!
# Scripts

A script is an engine written as a list of steps. Steps write to the console, report, ask to exit,
raise signals, look at their surroundings, handle the signals of other steps, and call compilers of
their own.
-/

namespace EngineHost

inductive Step where
  | write (channel : Channel) (text : String)
  /-- Write the argument vector on one line. -/
  | writeArguments
  | emit (report : Report)
  /-- Ask the exit capability to exit, which records the code and unwinds. -/
  | exit (code : Value)
  /-- The same, but handle the unwinding at once. -/
  | exitQuietly (code : Value)
  /-- Ask to leave the process. -/
  | leave (code : Value)
  | raise (signal : Signal)
  /-- Append to the engine's own argument vector. -/
  | appendArgument (argument : Value)
  | changeDirectory (target : Value)
  /-- Note down the state of the run and the process. -/
  | observe
  /-- Run steps; if an ordinary signal leaves them, note it down and run the handler. -/
  | attempt (body handler : List Step)
  /-- Call a compiler around another script. A supervised call is made from a console of its own and
  noted down with all that can be seen of it, a signal included; another call is made as it is. -/
  | nested (supervised : Bool) (call : Call) (script : List Step) (resolver : Option String)
      (programName : String)

abbrev Script := List Step

/-- An engine that replays one course of events: it writes, reports, and then raises a signal or
exits. -/
structure Replay where
  out : String := ""
  err : String := ""
  reports : List Report := []
  exitCode : Value := .null
  raises : Option Signal := none
  /-- Does the engine handle the unwinding of its exit itself? -/
  handlesExit : Bool := false

namespace Replay

def ending (r : Replay) : Script :=
  match r.raises, r.exitCode with
  | some s, _ => [.raise s]
  | none, .null => []
  | none, code => [if r.handlesExit then .exitQuietly code else .exit code]

def script (r : Replay) : Script :=
  .write .out r.out :: .write .err r.err :: (r.reports.map .emit ++ r.ending)

end Replay

end EngineHost
