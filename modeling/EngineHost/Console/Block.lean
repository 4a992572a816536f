import EngineHost.Console.Basic
import EngineHost.Signal.Basic

/-!
# Blocks of captures

Captures are acquired and released one by one, or held for a block of steps. A block begins by
acquiring its capture; when it ends, by a signal too, the capture is released. A block whose capture
is held already does not begin. A signal goes on through the blocks around it until something catches
it.
-/

namespace EngineHost

/-- What can be done with a console and its captures. -/
inductive ConsoleStep where
  | acquire (id : Nat)
  | release (id : Nat)
  | write (channel : Channel) (text : String)
  | raise (s : Signal)
  | within (id : Nat) (body : List ConsoleStep)
  /-- A signal that leaves the body ends there if it is caught, and the handler is performed. -/
  | attempt (caught : Signal → Bool) (body handler : List ConsoleStep)

def Console.AcquireError.signal (e : Console.AcquireError) : Signal := .of .runtime e.message

mutual

/-- Perform one step. The signal that leaves it, if any, comes with the console. -/
def ConsoleStep.perform : ConsoleStep → Console → Option Signal × Console
  | .acquire id, c =>
    match c.acquire id with
    | .ok c => (none, c)
    | .error e => (some e.signal, c)
  | .release id, c => (none, c.release id)
  | .write channel text, c => (none, c.write channel text)
  | .raise s, c => (some s, c)
  | .within id body, c =>
    match c.acquire id with
    | .error e => (some e.signal, c)
    | .ok held =>
      let (s, c) := ConsoleStep.performAll body held
      (s, c.release id)
  | .attempt caught body handler, c =>
    match ConsoleStep.performAll body c with
    | (none, c) => (none, c)
    | (some s, c) => if caught s then ConsoleStep.performAll handler c else (some s, c)

def ConsoleStep.performAll : List ConsoleStep → Console → Option Signal × Console
  | [], c => (none, c)
  | step :: rest, c =>
    match step.perform c with
    | (none, c) => ConsoleStep.performAll rest c
    | (some s, c) => (some s, c)

end

end EngineHost
