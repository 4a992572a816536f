import EngineHost.Text.Quoted
import EngineHost.Value.Text

/-!
# Signals

An engine that does not run to its end is left by a signal. Most signals are ordinary: an engine may
handle them, and a host that cannot make sense of one reports an internal error. Three are not: the
request to leave the process, the keyboard interrupt and the closing of a generator. Other signals
that are not ordinary are not described.

A signal may have been raised because of another (its cause), or while another was being handled
(its context). A context counts as one only if it is to be shown: a signal whose context has been
suppressed has none.
-/

namespace EngineHost

/-- The kinds of signals that carry a message at most. -/
inductive SignalKind where
  | value
  | runtime
  | type
  | os
  | fileNotFound
  | notADirectory
  | moduleNotFound
  | zeroDivision
  | overflow
  | lookup
  | key
  | general
  | assertion
  | notImplemented
  | interrupt
  | generatorClose
  | stop
  | reported
  | reportedVariant
  | engineLoad
deriving DecidableEq, Repr, Inhabited

namespace SignalKind

def name : SignalKind → String
  | value => "ValueError"
  | runtime => "RuntimeError"
  | type => "TypeError"
  | os => "OSError"
  | fileNotFound => "FileNotFoundError"
  | notADirectory => "NotADirectoryError"
  | moduleNotFound => "ModuleNotFoundError"
  | zeroDivision => "ZeroDivisionError"
  | overflow => "OverflowError"
  | lookup => "LookupError"
  | key => "KeyError"
  | general => "Exception"
  | assertion => "AssertionError"
  | notImplemented => "NotImplementedError"
  | interrupt => "KeyboardInterrupt"
  | generatorClose => "GeneratorExit"
  | stop => "StopProcessing"
  | reported => "ReportedError"
  | reportedVariant => "ReportedErrorSub"
  | engineLoad => "EngineLoadError"

/-- The module that a kind's full name begins with; the common kinds have none. -/
def home? : SignalKind → Option String
  | stop | reported | engineLoad => some "fschost.engine"
  | reportedVariant => some "engine_ext"
  | _ => none

/-- May an engine handle the kind, and a host absorb it? -/
def isOrdinary : SignalKind → Bool
  | interrupt | generatorClose => false
  | _ => true

/-- Does the kind say that a failure has been reported already? -/
def isReported : SignalKind → Bool
  | reported | reportedVariant => true
  | _ => false

end SignalKind

/-- What a signal says: a kind and a message, a request to leave the process with a code, or another
signal wrapped. -/
inductive SignalBody (σ : Type) where
  | plain (kind : SignalKind) (message : Option String)
  | exit (code : Option Value)
  | wrapped (inner : σ)
deriving Repr

/-- A signal. `raised` tells a signal that was raised from one that was only made; `context` is the
context that is shown where there is no cause. -/
structure Signal where
  body : SignalBody Signal
  raised : Bool := false
  cause : Option Signal := none
  context : Option Signal := none
deriving Repr

namespace Signal

def of (kind : SignalKind) (message : String) : Signal := { body := .plain kind (some message) }

/-- The signal by which the exit capability unwinds an engine. -/
def stop : Signal := { body := .plain .stop none }

/-- The request to leave the process; a null code is none. -/
def leave (code : Value) : Signal :=
  { body := .exit (match code with | .null => none | code => some code) }

def name (s : Signal) : String :=
  match s.body with
  | .plain kind _ => kind.name
  | .exit _ => "SystemExit"
  | .wrapped _ => "WrappedError"

/-- The name of a signal with the module it belongs to. -/
def fullName (s : Signal) : String :=
  match s.body with
  | .plain kind _ => (kind.home?.map (· ++ ".")).getD "" ++ kind.name
  | .exit _ => "SystemExit"
  | .wrapped _ => "fschost.engine.WrappedError"

/-- May an engine handle the signal, and a host absorb it? -/
def isOrdinary (s : Signal) : Bool :=
  match s.body with
  | .plain kind _ => kind.isOrdinary
  | .exit _ => false
  | .wrapped _ => true

def isStop (s : Signal) : Bool :=
  match s.body with
  | .plain .stop _ => true
  | _ => false

/-- Does the signal itself say that a failure has been reported? -/
def isReportedItself (s : Signal) : Bool :=
  match s.body with
  | .plain kind _ => kind.isReported
  | _ => false

/-- Does the signal say that a failure has been reported, itself or directly wrapped? One wrapped
twice does not, nor one that is only a cause or a context. -/
def isReported (s : Signal) : Bool :=
  match s.body with
  | .wrapped inner => inner.isReportedItself
  | _ => s.isReportedItself

/-- The text of a signal: its message, its code, or the text of the signal it wraps. The message of
a key error is quoted. -/
def text : Signal → String
  | ⟨.plain .key (some message), _, _, _⟩ => EngineHost.Text.quoted message
  | ⟨.plain _ message, _, _, _⟩ => message.getD ""
  | ⟨.exit code, _, _, _⟩ => (code.map Value.display).getD ""
  | ⟨.wrapped inner, _, _, _⟩ => inner.text

/-- Raise a signal while another may be being handled, which then becomes its context. -/
def raiseWhile (handling : Option Signal) (s : Signal) : Signal :=
  match handling with
  | some h => { s with raised := true, context := some h }
  | none => { s with raised := true }

end Signal

end EngineHost
