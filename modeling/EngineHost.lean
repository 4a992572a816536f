import EngineHost.Console.Block
import EngineHost.Diagnostic.Builder
import EngineHost.Diagnostic.Given
import EngineHost.Main
import EngineHost.Session
import EngineHost.Proofs.Trace.Basic
import EngineHost.Proofs.Trace.Course
import EngineHost.Proofs.Trace.Effect
import EngineHost.Proofs.Trace.Run
import EngineHost.Proofs.Trace.Parallel
import EngineHost.Proofs.Trace.Alike
import EngineHost.Proofs.Argument.Program
import EngineHost.Proofs.Argument.Switches
import EngineHost.Proofs.Compile.EngineCall
import EngineHost.Proofs.Compile.Faults
import EngineHost.Proofs.Compile.EntryPoints
import EngineHost.Proofs.Compile.ExitCode
import EngineHost.Proofs.Compile.History
import EngineHost.Proofs.Compile.Observation
import EngineHost.Proofs.Compile.Provenance
import EngineHost.Proofs.Compile.Refusal
import EngineHost.Proofs.Compile.Restoration
import EngineHost.Proofs.Compile.Nested
import EngineHost.Proofs.Compile.Serialized
import EngineHost.Proofs.Cli.Ending
import EngineHost.Proofs.Cli.Json
import EngineHost.Proofs.Cli.Modes
import EngineHost.Proofs.CommandLine.Pieces
import EngineHost.Proofs.CommandLine.Writing
import EngineHost.Proofs.Diagnostic.Fields
import EngineHost.Proofs.Diagnostic.Lines
import EngineHost.Proofs.Diagnostic.Order
import EngineHost.Proofs.Console.Blocks
import EngineHost.Proofs.Console.Captures
import EngineHost.Proofs.Text.Lines
import EngineHost.Proofs.Signal.FaultLine
import EngineHost.Proofs.Registry.Resolution
import EngineHost.Proofs.Text.CaseVariant
import EngineHost.Proofs.Argument.Spelling
import EngineHost.Proofs.Argument.ProgramFile
import EngineHost.Proofs.Text.Layout
