import EngineHost.Proofs.Trace.Parallel

/-!
# Runs at different consoles

What a run does does not depend on the console it takes place at, nor on how many captures are held
around it. `Process.Alike` relates processes that differ in their consoles only. In alike processes,
and at sites where the same signal is being handled, a call takes the same course, is answered or
left in the same way and notes down the same, text that it captures included.
-/

namespace EngineHost

/-- The processes differ in their consoles only. -/
structure Process.Alike (p q : Process) : Prop where
  files : p.files = q.files
  directory : p.directory = q.directory
  locked : p.locked = q.locked
  verbose : p.verbose = q.verbose

structure Completion.Alike {α : Type} (c c' : Completion α) : Prop where
  result : c.result = c'.result
  journal : c.journal = c'.journal
  process : c.process.Alike c'.process

/-- The console may be another one; the state of the lock is the same. -/
def Likeness.elsewhere : Likeness := ⟨False, Eq⟩

mutual

theorem Entry.eq_of_parallel : ∀ {e f : Entry}, e.Parallel .elsewhere f → e = f
  | _, _, .called _ _ _ => rfl
  | _, _, .observed _ _ _ _ hlocked => by
    change _ = _ at hlocked
    rw [hlocked]
  | _, _, .caught _ _ => rfl
  | _, _, .nested _ _ _ _ _ hjournal hlocked => by
    change _ = _ at hlocked
    rw [eq_of_journalsParallel hjournal, hlocked]

theorem eq_of_journalsParallel : ∀ {es fs : List Entry}, JournalsParallel .elsewhere es fs → es = fs
  | _, _, .nil => rfl
  | _, _, .cons he hes => by rw [Entry.eq_of_parallel he, eq_of_journalsParallel hes]

end

theorem Process.beginCapture_alike (p : Process) (id : Nat) : (p.beginCapture id).Alike p :=
  ⟨rfl, rfl, rfl, rfl⟩

theorem Process.Alike.parallel {p q : Process} (h : p.Alike q) : p.Parallel .elsewhere q :=
  ⟨h.files, h.directory, h.verbose, h.locked, fun hconsole => hconsole.elim⟩

theorem Process.Parallel.alike {p q : Process} (h : p.Parallel .elsewhere q) : p.Alike q :=
  ⟨h.files, h.directory, h.locked, h.verbose⟩

theorem Completion.Parallel.alike {α : Type} {c c' : Completion α}
    (h : c.Parallel .elsewhere c') : c.Alike c' :=
  ⟨h.result, eq_of_journalsParallel h.journal, h.process.alike⟩

theorem CallSite.parallel_elsewhere {site site' : CallSite} (h : site.handling = site'.handling) :
    site.Parallel .elsewhere site' :=
  ⟨h, fun hconsole => hconsole.elim⟩

-- The lock may be taken in any run: its state is the same in both.
theorem Trace.admits_elsewhere (es : Trace) : es.Admits .elsewhere := admits_of_refl (fun _ => rfl) es

namespace Compiler

variable {c : Compiler} {t : EngineTrace} (h : c.engine.Parallel .elsewhere t)
  {site site' : CallSite} {p p' : Process} (hsite : site.handling = site'.handling)
  (hp : p.Alike p')

include h hsite hp

theorem argsTrace_alike (argv : Value) :
    c.argsTrace t site argv p = c.argsTrace t site' argv p' :=
  (compileArgs_parallel h (CallSite.parallel_elsewhere hsite) hp.parallel argv
    (Trace.admits_elsewhere _)).1

theorem compileArgs_alike (argv : Value) :
    (c.compileArgs site argv p).Alike (c.compileArgs site' argv p') :=
  (compileArgs_parallel h (CallSite.parallel_elsewhere hsite) hp.parallel argv
    (Trace.admits_elsewhere _)).2.alike

/-- All that can be seen of a call is the same. -/
theorem supervise_alike (call : Call) :
    (c.supervise site call p).1 = (c.supervise site' call p').1 := by
  obtain ⟨-, hreport, -⟩ := supervise_parallel h (CallSite.parallel_elsewhere hsite) hp.parallel call
    (Trace.admits_elsewhere _)
  have heq := Entry.eq_of_parallel hreport
  rw [Entry.nested.injEq] at heq
  exact heq

end Compiler

end EngineHost
