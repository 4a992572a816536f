import EngineHost.Proofs.Compile.EngineCall
import EngineHost.Proofs.Trace.Alike

/-!
# Calls one after the other

Calls of one compiler share the process, and what they leave behind in it is the working directory:
files and log are never changed, the lock is given back, and the console has no influence on a call.
So a call is answered, or left, as if it were the first one in its directory
(`Script.perform_after`), whatever calls came before and however they ended.
-/

namespace EngineHost

/-- A process in which nothing has been done yet, in any directory. -/
def Process.startIn (files : FileSystem) (directory : WorkingDirectory) (verbose : Bool) :
    Process :=
  { files, directory, console := .fresh, locked := false, verbose }

/-- The process after a history of calls, each made at a site of its own. A signal that leaves a call
ends that call alone. -/
def Compiler.after (c : Compiler) (p : Process) (history : List (CallSite × Call)) : Process :=
  history.foldl (fun p (site, call) => (c.perform site call p).process) p

/-- The state of the lock makes no difference, nor does the console. -/
def Likeness.anyState : Likeness := ⟨False, fun _ _ => True⟩

/-- What no call changes: the files, the kind of log, and the lock if it is free. -/
structure Process.Keeps (p q : Process) : Prop where
  files : q.files = p.files
  verbose : q.verbose = p.verbose
  free : p.locked = false → q.locked = false

namespace Process

variable {p q r : Process}

theorem Keeps.trans (h : p.Keeps q) (h' : q.Keeps r) : p.Keeps r :=
  ⟨h'.files.trans h.files, h'.verbose.trans h.verbose, fun hfree => h'.free (h.free hfree)⟩

theorem Evolves.keeps {depth : Nat} {es : Trace} (h : Evolves depth es p q) : p.Keeps q where
  files := h.files
  verbose := h.verbose
  free hfree := by rw [h.locked, hfree, Bool.false_and]

theorem Keeps.parallel_startIn (h : p.Keeps q) :
    q.Parallel .anyState (.startIn p.files q.directory p.verbose) :=
  ⟨h.files, rfl, h.verbose, trivial, fun hconsole => hconsole.elim⟩

theorem Keeps.alike_startIn (h : p.Keeps q) (hfree : p.locked = false) :
    q.Alike (.startIn p.files q.directory p.verbose) :=
  ⟨h.files, rfl, h.free hfree, h.verbose⟩

end Process

-- By induction on the history, from what a single call makes of the process.
theorem Compiler.keeps_after {c : Compiler} {t : EngineTrace} (h : c.engine.Keeps t)
    (history : List (CallSite × Call)) (p : Process) : p.Keeps (c.after p history) := by
  induction history generalizing p with
  | nil => exact ⟨rfl, rfl, fun hfree => hfree⟩
  | cons earlier history ih =>
    obtain ⟨site, call⟩ := earlier
    have hcall := (perform_evolves h site call p).keeps
    exact hcall.trans (ih (c.perform site call p).process)

/-- After any history of calls, the next call of a compiler around a script ends as it would if it
were the first call of a new compiler, in a process in which nothing has been done and that works in
the directory where the history has led: it is answered the same or left by the same signal. If the
lock is free, all else that can be seen of the call is the same too: what the engine notes down, what
reaches the caller's console, and the state of the process afterwards. -/
theorem Script.perform_after (script : Script) (resolver : Option String) (programName : String)
    (history : List (CallSite × Call)) (p : Process) (site : CallSite) (call : Call) :
    let c := script.compiler resolver programName
    let q := c.after p history
    let anew := Process.startIn p.files q.directory p.verbose
    (c.perform site call q).result =
        (c.perform { handling := site.handling } call anew).result ∧
      (p.locked = false →
        (c.supervise site call q).1 = (c.supervise { handling := site.handling } call anew).1) := by
  intro c q anew
  have hkeeps : p.Keeps q := c.keeps_after script.engine_keeps history p
  constructor
  · have hsite : site.Parallel .anyState { handling := site.handling } :=
      ⟨rfl, fun hconsole => hconsole.elim⟩
    have hadmits : (c.performTrace script.engineTrace site call q).Admits .anyState :=
      Trace.admits_of_refl (fun _ => trivial) _
    have hdone := (c.perform_parallel (script.engine_parallel _) hsite hkeeps.parallel_startIn call
      hadmits).2
    exact hdone.result
  · intro hfree
    have hhandling : site.handling = ({ handling := site.handling } : CallSite).handling := rfl
    exact c.supervise_alike (script.engine_parallel _) hhandling (hkeeps.alike_startIn hfree) call

/-- A script that goes down into a directory, if it can, and is interrupted there; it has something to
report in any case. -/
def Script.restless : Script :=
  [.write .out "begin\n", .emit (.short (.bool true) (.text "bad")), .exitQuietly (.int 3),
    .attempt [.changeDirectory (.text "sub"), .raise (.of .interrupt "enough")]
      [.write .err "no way down\n"]]

/-- An interrupt, a fault, and then a call that is answered. -/
theorem Script.perform_after_restless :
    let c := Script.restless.compiler none "fsc"
    let p := Process.start (.directory [("sub", .directory [])])
    let history : List (CallSite × Call) :=
      [({}, .args (.list [.text "/vserrors"])),
        ({}, .serialized (.text "missing") (.text "a.fs"))]
    let q := c.after p history
    p.locked = false ∧ q.directory = p.directory.child "sub" ∧
      (c.perform {} (.line (.text ".") (.text "b.fs")) q).result.isOk = true ∧
      (c.supervise {} (.line (.text ".") (.text "b.fs")) q).1 =
        (c.supervise {} (.line (.text ".") (.text "b.fs"))
          (.startIn p.files q.directory p.verbose)).1 := by
  intro c p history q
  obtain ⟨-, hseen⟩ := Script.perform_after Script.restless none "fsc" history p {}
    (.line (.text ".") (.text "b.fs"))
  exact ⟨rfl, by decide +kernel, by decide +kernel, hseen rfl⟩

end EngineHost
