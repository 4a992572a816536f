import EngineHost.Script.Perform

/-!
# Sessions

A session is a sequence of calls of one compiler in one process. Before a call the compiler may be
given another engine or another program name, for that call and those after it. Every call is made
from a console of its own.
-/

namespace EngineHost

/-- A call, and what changes in the compiler before it. -/
structure SessionCall where
  call : Call
  engine : Option Engine := none
  programName : Option String := none

namespace SessionCall

def revise (s : SessionCall) (c : Compiler) : Compiler :=
  { c with
    engine := s.engine.getD c.engine
    programName := s.programName.getD c.programName }

end SessionCall

def Compiler.session (c : Compiler) (p : Process) : List SessionCall → List (CallReport Entry)
  | [] => []
  | s :: rest =>
    let c := s.revise c
    let (report, p) := c.supervise {} s.call p
    report :: c.session p rest

end EngineHost
