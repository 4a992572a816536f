import EngineHost.Signal.Basic
import EngineHost.Value.Equality

/-!
# How a call of an engine ends

An engine expects to end the process when it is done. The host turns every way of ending into one of
three terminations, and a termination into an exit code. Signals that fit none of them go on to the
caller.
-/

namespace EngineHost

inductive Termination where
  /-- The exit capability, or a request to leave the process, unwound the engine. -/
  | stopped (code : Value)
  /-- The engine said that it had reported a failure. -/
  | reportedFailure
  /-- The engine returned, with the code it had last asked to exit with. -/
  | returned (code : Value)
deriving Repr

namespace Termination

def name : Termination → String
  | stopped _ => "Stopped"
  | reportedFailure => "ReportedFailure"
  | returned _ => "Returned"

def code? : Termination → Option Value
  | stopped code => some code
  | reportedFailure => none
  | returned code => some code

def exitCode : Termination → Value
  | stopped code => code
  | reportedFailure => .int 1
  | returned code => code

def isSuccess (t : Termination) : Bool := t.exitCode.isZero

/-- The exit code that a compile answers with: 0 for success and 1 for failure. -/
def status (t : Termination) : Nat := if t.isSuccess then 0 else 1

def display (t : Termination) : String :=
  match t.code? with
  | some code => t.name ++ "(code=" ++ code.literal ++ ")"
  | none => t.name ++ "()"

/-- The exit code of a request to leave the process: none is success, an integer or truth value is
itself, and anything else is failure. -/
def leaveCode : Option Value → Value
  | none => .int 0
  | some .null => .int 0
  | some (.int n) => .int n
  | some (.bool b) => .bool b
  | some _ => .int 1

/-- The termination of a call that ended with a signal or, without one, by returning. `recorded` is
the code last given to the exit capability. A signal that fits no termination is handed back. -/
def ofEnding (recorded : Value) : Option Signal → Except Signal Termination
  | none => .ok (.returned recorded)
  | some s =>
    match s.body with
    | .exit code => .ok (.stopped (leaveCode code))
    | _ =>
      if s.isStop then .ok (.stopped recorded)
      else if s.isReported then .ok .reportedFailure
      else .error s

end Termination

/-- Something that is no termination was given as one. -/
structure UnknownTermination where
  given : Value

namespace UnknownTermination

def message (e : UnknownTermination) : String :=
  "unknown termination outcome: " ++ e.given.literal

end UnknownTermination

end EngineHost
