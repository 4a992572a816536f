import EngineHost.Console.Basic
import EngineHost.Directory

/-!
# The process

Everything that calls share is in the process: the console, the working directory, the lock that
callers may hold around a call, and the way log records are written.
-/

namespace EngineHost

inductive LogLevel where
  | debug
  | warning
deriving DecidableEq, Repr

namespace LogLevel

def name : LogLevel → String
  | debug => "DEBUG"
  | warning => "WARNING"

end LogLevel

structure LogRecord where
  level : LogLevel
  source : String
  message : String
deriving DecidableEq, Repr

namespace LogRecord

/-- The line of a record when all records are written. -/
def line (r : LogRecord) : String :=
  r.source ++ ": " ++ r.level.name ++ ": " ++ r.message ++ "\n"

end LogRecord

structure Process where
  files : FileSystem
  directory : WorkingDirectory
  console : Console
  locked : Bool
  /-- Are all log records written, to the process's own error stream? Otherwise warnings alone are,
  to the current one. -/
  verbose : Bool

namespace Process

/-- A process that has done nothing yet, in a directory with the given contents. -/
def start (contents : FileNode) : Process :=
  { files := .holding contents
    directory := .home
    console := .fresh
    locked := false
    verbose := false }

def write (p : Process) (channel : Channel) (s : String) : Process :=
  { p with console := p.console.write channel s }

def writeLine (p : Process) (channel : Channel) (line : String) : Process :=
  p.write channel (line ++ "\n")

def log (p : Process) (r : LogRecord) : Process :=
  if p.verbose then { p with console := p.console.append ⟨.ambient, .err⟩ r.line }
  else
    match r.level with
    | .warning => p.writeLine .err r.message
    | .debug => p

def beginCapture (p : Process) (id : Nat) : Process := { p with console := p.console.begin id }

def endCapture (p : Process) (id : Nat) : Process := { p with console := p.console.release id }

/-- Change the working directory; a failed change changes nothing. -/
def changeDirectory (p : Process) (target : Value) : Except DirectoryError Process :=
  (p.directory.follow p.files target).map fun d => { p with directory := d }

end Process

end EngineHost
