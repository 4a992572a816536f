import EngineHost.Proofs.CommandLine.Writing
import EngineHost.Proofs.Compile.Faults
import EngineHost.Proofs.Directory.Targets
import EngineHost.Proofs.Trace.Alike

/-!
# Argument vector and command line

The same arguments can be compiled in two ways: as an argument vector, at the caller's console, and
as a command line on which each stands between quotes, in the directory that is current already. The
engine cannot tell the two apart. What it writes is the caller's in the one case and is captured in
the other, where it comes back as lines.
-/

namespace EngineHost

/-- A dot leads to the directory that is current, wherever that is. -/
theorem WorkingDirectory.follow_dot (files : FileSystem) (d : WorkingDirectory) :
    d.follow files (.text ".") = .ok d := by
  have hcomponents : components "." = ["."] := by decide +kernel
  have hbase : d.base "." = d := if_neg (by decide)
  have hwalks : Walks files.tree maxLinks (d.base ".") (components ".") (.ok d) := by
    rw [hcomponents, hbase]
    exact .on (.stay (.inr rfl)) .done
  exact follow_eq_iff.mpr (.path (by decide) (by decide) (by decide) hwalks)

theorem Process.directory_log (p : Process) (r : LogRecord) :
    (p.log r).directory = p.directory := by
  unfold log
  split
  · rfl
  · split <;> rfl

namespace Compiler

variable {c : Compiler} {site : CallSite} {directory commandLine : Value} {p : Process}

-- What is done when the capture is released is seen neither by the engine nor in the directory.
theorem compileLine_keeps (c : Compiler) (site : CallSite) (directory commandLine : Value)
    (p : Process) :
    (c.compileLine site directory commandLine p).journal =
        (c.guarded site directory commandLine p).journal ∧
      (c.compileLine site directory commandLine p).process.directory =
        (c.guarded site directory commandLine p).process.directory := by
  simp only [compileLine]
  split
  · exact ⟨rfl, rfl⟩
  · split
    · exact ⟨rfl, Process.directory_log _ _⟩
    · exact ⟨rfl, rfl⟩

theorem compileLine_result_of_ok {exitCode : Nat} {lines : List String}
    (h : (c.guarded site directory commandLine p).result = .ok (exitCode, lines)) :
    (c.compileLine site directory commandLine p).result =
      .ok (exitCode,
        (c.guarded site directory commandLine p).process.console.capturedLines site.depth .out ++
          lines,
        (c.guarded site directory commandLine p).process.console.capturedLines site.depth .err) := by
  rw [compileLine_result, h]

theorem compileLine_result_of_isOrdinary {s : Signal}
    (h : (c.guarded site directory commandLine p).result = .error s) (hs : s.isOrdinary = true) :
    (c.compileLine site directory commandLine p).result = .ok (faultReport s) := by
  simp only [compileLine_result, h, hs, if_true]

theorem compileLine_result_of_not_isOrdinary {s : Signal}
    (h : (c.guarded site directory commandLine p).result = .error s)
    (hs : s.isOrdinary = false) :
    (c.compileLine site directory commandLine p).result = .error s := by
  simp only [compileLine_result, h, hs, Bool.false_eq_true, if_false]

end Compiler

/-- Arguments for a compiler around a script, and where and in which process they are compiled. -/
structure ArgumentCompile where
  script : Script
  resolver : Option String := none
  programName : String := Program.defaultName
  site : CallSite := {}
  args : List String
  process : Process

namespace ArgumentCompile

def compiler (x : ArgumentCompile) : Compiler := x.script.compiler x.resolver x.programName

/-- The arguments compiled as an argument vector. -/
def byVector (x : ArgumentCompile) : Completion (Nat × List String) :=
  x.compiler.compileArgs x.site (.list (Value.texts x.args)) x.process

/-- The arguments compiled as a command line, each between quotes. -/
def byLine (x : ArgumentCompile) : Completion (Nat × List String × List String) :=
  x.compiler.compileLine x.site (.text ".") (.text (CommandLine.ofArguments x.args)) x.process

/-- The course of the compile of the argument vector. -/
def trace (x : ArgumentCompile) : Trace :=
  x.compiler.argsTrace x.script.engineTrace x.site (.list (Value.texts x.args)) x.process

/-- What the compile of the argument vector brings to one side of the caller's console. -/
def written (x : ArgumentCompile) (channel : Channel) : String :=
  x.trace.written x.process.verbose channel

def guarded (x : ArgumentCompile) : Completion (Nat × List String) :=
  x.compiler.guarded x.site (.text ".") (.text (CommandLine.ofArguments x.args)) x.process

variable {x : ArgumentCompile}

theorem byVector_evolves (x : ArgumentCompile) :
    Process.Evolves x.site.depth x.trace x.process x.byVector.process :=
  Compiler.compileArgs_evolves x.script.engine_keeps x.site _ x.process

/-- What is written reaches the caller's streams, but for the stream of the log when all log records
go there as well. -/
theorem text_byVector {owner : Owner} (hcurrent : x.process.console.current = .of owner)
    (hbelow : owner.Below x.site.depth) (channel : Channel)
    (hlog : x.process.verbose = true → (⟨owner, channel⟩ : Stream) ≠ ⟨.ambient, .err⟩) :
    x.byVector.process.console.text ⟨owner, channel⟩ =
      x.process.console.text ⟨owner, channel⟩ ++ x.written channel := by
  have htext := x.byVector_evolves.text ⟨owner, channel⟩ hbelow
  rw [hcurrent] at htext
  rw [htext]
  exact congrArg _ (Trace.textOn_eq_written _ hlog x.trace)

-- The directory is followed to itself, so that what is left is the new capture.
theorem guarded_eq_compileArgs
    (hargs : ∀ argument ∈ x.args, argument ≠ "" ∧ CommandLine.quote ∉ argument.toList) :
    x.guarded = x.compiler.compileArgs x.site.deeper (.list (Value.texts x.args))
      (x.process.beginCapture x.site.depth) := by
  have hsplit : Compiler.lineArguments (.text (CommandLine.ofArguments x.args)) =
      .list (Value.texts x.args) := by
    rw [Compiler.lineArguments, Value.display_text, CommandLine.split_ofArguments hargs]
    rfl
  rw [guarded,
    Compiler.guarded_eq_compileArgs (x.process.directory.follow_dot x.process.files), hsplit]
  rfl

theorem guarded_alike
    (hargs : ∀ argument ∈ x.args, argument ≠ "" ∧ CommandLine.quote ∉ argument.toList) :
    x.guarded.Alike x.byVector := by
  have hdeeper : x.site.deeper.handling = x.site.handling := rfl
  have hbegin := x.process.beginCapture_alike x.site.depth
  rw [guarded_eq_compileArgs hargs]
  exact Compiler.compileArgs_alike (c := x.compiler) (x.script.engine_parallel _) hdeeper hbegin _

/-- The capture takes in what the caller's console would have received. -/
theorem captured_guarded
    (hargs : ∀ argument ∈ x.args, argument ≠ "" ∧ CommandLine.quote ∉ argument.toList)
    (channel : Channel) :
    x.guarded.process.console.captured x.site.depth channel = x.written channel := by
  have hdeeper : x.site.deeper.handling = x.site.handling := rfl
  have hbegin := x.process.beginCapture_alike x.site.depth
  have hevolves := Compiler.compileArgs_evolves (c := x.compiler) x.script.engine_keeps
    x.site.deeper (.list (Value.texts x.args)) (x.process.beginCapture x.site.depth)
  have htrace : x.compiler.argsTrace x.script.engineTrace x.site.deeper
      (.list (Value.texts x.args)) (x.process.beginCapture x.site.depth) = x.trace :=
    Compiler.argsTrace_alike (c := x.compiler) (x.script.engine_parallel _) hdeeper hbegin _
  rw [guarded_eq_compileArgs hargs, hevolves.captured channel, htrace, written]

/-- Both ways to compile the same arguments come to the same. If the argument vector is answered, so
is the command line, with the same exit code and with what was written, as lines, in addition; a
fault that leaves the one is absorbed and reported by the other; an interrupt leaves both. In all
cases the engine and all that it calls note down the same, each call and its arguments included, and
the working directory is the same in the end. What was written is what the caller's streams
received. -/
theorem byLine_of_byVector (x : ArgumentCompile)
    (hargs : ∀ argument ∈ x.args, argument ≠ "" ∧ CommandLine.quote ∉ argument.toList) :
    (∀ exitCode lines, x.byVector.result = .ok (exitCode, lines) →
      x.byLine.result = .ok (exitCode, Text.splitLines (x.written .out) ++ lines,
        Text.splitLines (x.written .err))) ∧
    (∀ s, x.byVector.result = .error s →
      s.IsFault ∧ s.isOrdinary = true ∧
          x.byLine.result = .ok (1, [internalErrorMarker, s.faultLine], []) ∨
        s.Interrupts ∧ x.byLine.result = .error s) ∧
    x.byLine.process.directory = x.byVector.process.directory ∧
    x.byLine.journal = x.byVector.journal ∧
    ∀ (owner : Owner) (channel : Channel), x.process.console.current = .of owner →
      owner.Below x.site.depth →
      (x.process.verbose = true → (⟨owner, channel⟩ : Stream) ≠ ⟨.ambient, .err⟩) →
      x.byVector.process.console.text ⟨owner, channel⟩ =
        x.process.console.text ⟨owner, channel⟩ ++ x.written channel := by
  have halike := guarded_alike hargs
  obtain ⟨hjournal, hdirectory⟩ := x.compiler.compileLine_keeps x.site (.text ".")
    (.text (CommandLine.ofArguments x.args)) x.process
  refine ⟨?_, ?_, hdirectory.trans halike.process.directory, hjournal.trans halike.journal,
    fun owner channel hcurrent hbelow hlog => text_byVector hcurrent hbelow channel hlog⟩
  · intro exitCode lines hok
    have hline := Compiler.compileLine_result_of_ok (halike.result.trans hok)
    simp only [Console.capturedLines] at hline
    rw [← captured_guarded hargs, ← captured_guarded hargs]
    exact hline
  · intro s herror
    have hguarded := halike.result.trans herror
    rcases Compiler.isFault_or_interrupts_of_compileArgs herror with hfault | hinterrupts
    · have hordinary := (s.isFault_iff.mp hfault).1
      exact .inl ⟨hfault, hordinary, Compiler.compileLine_result_of_isOrdinary hguarded hordinary⟩
    · exact .inr ⟨hinterrupts,
        Compiler.compileLine_result_of_not_isOrdinary hguarded hinterrupts.not_isOrdinary⟩

/-- A compile whose engine calls a compiler that meets a fault, and so has a warning logged to the
error stream. -/
def warned : ArgumentCompile where
  script := [.write .out "begin\r\n",
    .nested false (.line (.text "missing") (.text "b.fs")) [] none "fsc",
    .emit (.short (.bool true) (.text "bad")), .exit (.int 2)]
  args := ["a b.fs", "--vserrors"]
  process := .start (.directory [])

theorem byLine_of_byVector_warned :
    (∀ argument ∈ warned.args, argument ≠ "" ∧ CommandLine.quote ∉ argument.toList) ∧
    ∃ lines, warned.byVector.result = .ok (1, lines) ∧
      warned.byLine.result = .ok (1, Text.splitLines (warned.written .out) ++ lines,
        Text.splitLines (warned.written .err)) := by
  have hargs : ∀ argument ∈ warned.args,
      argument ≠ "" ∧ CommandLine.quote ∉ argument.toList := by decide
  have hcode : warned.byVector.result.toOption.map Prod.fst = some 1 := by decide +kernel
  obtain ⟨hline, -⟩ := byLine_of_byVector warned hargs
  cases hresult : warned.byVector.result with
  | error s =>
    rw [hresult] at hcode
    contradiction
  | ok answer =>
    obtain ⟨exitCode, lines⟩ := answer
    rw [hresult] at hcode
    cases hcode
    exact ⟨hargs, lines, rfl, hline 1 lines hresult⟩

end ArgumentCompile

end EngineHost
