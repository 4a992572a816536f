import EngineHost.Cli.Run
import EngineHost.Registry.Basic

/-!
# The program

The command line tool as a program. No module can be imported here, so no engine is found under any
reference.
-/

namespace EngineHost

def engineVariable : String := "FSCHOST_ENGINE"

/-- The status of a process that is left with a code. -/
def exitStatus (code : Value) : UInt32 :=
  match Termination.leaveCode (some code) with
  | .int n => UInt32.ofNat (n % 256).toNat
  | .bool true => 1
  | _ => 0

end EngineHost

open EngineHost in
def main (args : List String) : IO UInt32 := do
  let environment ← IO.getEnv engineVariable
  let outcome :=
    Cli.run (Registry.space []) Located.engine args environment (.start (.directory []))
  IO.print (outcome.process.console.ambient .out)
  IO.eprint (outcome.process.console.ambient .err)
  match outcome.ending.asProgram with
  | .left code => return exitStatus code
  | .returned code => return exitStatus (.int code)
  | .signalled s =>
    IO.eprint s.account
    return 1
