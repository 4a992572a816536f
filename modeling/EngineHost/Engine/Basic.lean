import EngineHost.Diagnostic.Issue
import EngineHost.Diagnostic.Sink
import EngineHost.Engine.Termination
import EngineHost.Process

/-!
# Engines

An engine is a function of what it is called with and of the process it runs in. It leaves behind
how it ended, the exit code it asked for, its reports, the process, and a journal of what it saw.
-/

namespace EngineHost

inductive Answer where
  | args (exitCode : Nat) (lines : List String)
  | line (exitCode : Nat) (lines errLines : List String)
  | run (termination : Termination) (errors warnings : List Issue)
  | compile (success : Bool) (issues : List Issue)
deriving Repr

/-- All that the caller of a compiler can see of one call: its answer or signal, what the engine
noted down, what reached the caller's console, and the state of the process afterwards. -/
structure CallReport (ε : Type) where
  result : Except Signal Answer
  journal : List ε
  out : String
  err : String
  /-- Are the current streams those from before the call? -/
  restored : Bool
  directory : WorkingDirectory
  locked : Bool

/-- What an engine notes down while it runs. -/
inductive Entry where
  /-- It was called. -/
  | called (argv : List Value) (resolver : Option String) (propagateExit : Bool)
  /-- It looked at its own state and at the process. -/
  | observed (exitCode : Value) (errors warnings : Nat) (locked : Bool)
      (directory : WorkingDirectory)
  /-- It handled a signal. -/
  | caught (name text : String)
  /-- It called a compiler. -/
  | nested (report : CallReport Entry)

/-- Where a call is made: the signal being handled there, and how many captures are held around
it. -/
structure CallSite where
  handling : Option Signal := none
  depth : Nat := 0

namespace CallSite

def raise (site : CallSite) (s : Signal) : Signal := s.raiseWhile site.handling

/-- The site inside one more capture. -/
def deeper (site : CallSite) : CallSite := { site with depth := site.depth + 1 }

end CallSite

/-- What an engine is called with. The resolver is a tag of the caller's, if it gave one, and is passed
on as it is. -/
structure Invocation where
  argv : List Value
  resolver : Option String := none
  propagateExit : Bool := false

structure EngineRun where
  ending : Option Signal
  exitCode : Value
  sink : Sink
  journal : List Entry
  process : Process

abbrev Engine := CallSite → Invocation → Process → EngineRun

structure Completion (α : Type) where
  result : Except Signal α
  journal : List Entry
  process : Process

namespace Completion

variable {α β : Type}

/-- A call that ended before any engine was called. -/
def failed (s : Signal) (p : Process) : Completion α :=
  { result := .error s, journal := [], process := p }

/-- Go on from a result and the process; a signal stays as it is. -/
def andThen (c : Completion α) (f : α → Process → β × Process) : Completion β :=
  match c.result with
  | .error s => { c with result := .error s }
  | .ok a =>
    let (b, p) := f a c.process
    { c with result := .ok b, process := p }

def map (f : α → β) (c : Completion α) : Completion β := { c with result := c.result.map f }

end Completion

end EngineHost
