import EngineHost.Proofs.Compile.EngineCall

/-!
# What a compile leaves behind

After a compile of a command line the current streams are those from before it, and nothing that any
engine wrote has reached them. The lock is as it was. The working directory is the one thing that is
not put back: it has followed every target that could be changed to.

All of this holds however the call ends, and whatever calls its engine makes.
-/

namespace EngineHost

namespace Trace

-- Where the streams are not followed, only the process's own stream can be reached, by log records.
theorem textOn_eq_empty_of_captured (verbose : Bool) (here : StreamPair) (stream : Stream)
    {e : Event} (hplace : e.place = .captured) (hact : e.act.isRecord = false) :
    e.textOn verbose here stream = "" := by
  rw [Event.textOn, if_pos hplace]
  cases h : e.act with
  | logged r =>
    rw [h] at hact
    contradiction
  | wrote channel s => simp [Act.textOn]
  | _ => rfl

/-- If everything but log records takes place under captures, then log records alone reach a stream. -/
theorem textOn_records (verbose : Bool) (here : StreamPair) (stream : Stream) {es : Trace}
    (h : ∀ e ∈ es, e.place = .captured ∨ e.act.isRecord = true) :
    es.records.textOn verbose here stream = es.textOn verbose here stream := by
  induction es with
  | nil => rfl
  | cons e es ih =>
    have hrest := ih fun e he => h e (List.mem_cons_of_mem _ he)
    have hcons : ∀ fs : Trace, e :: fs = [e] ++ fs := fun _ => rfl
    by_cases hrecord : e.act.isRecord = true
    · have hkeep : records (e :: es) = e :: records es := List.filter_cons_of_pos hrecord
      rw [hkeep, hcons, hcons es, textOn_append, textOn_append, hrest]
    · have hdrop : records (e :: es) = records es := List.filter_cons_of_neg hrecord
      have hcaptured := (h e List.mem_cons_self).resolve_right hrecord
      rw [hdrop, hrest, hcons es, textOn_append, textOn_singleton,
        textOn_eq_empty_of_captured verbose here stream hcaptured (Bool.eq_false_iff.mpr hrecord),
        String.empty_append]

end Trace

/-- All that a compile of a command line does outside of its capture is to log a fault. -/
theorem Compiler.captured_or_isRecord_of_mem_lineTrace (c : Compiler) (t : EngineTrace)
    (site : CallSite) (directory commandLine : Value) (p : Process) {e : Event}
    (he : e ∈ c.lineTrace t site directory commandLine p) :
    e.place = .captured ∨ e.act.isRecord = true := by
  rw [lineTrace, List.mem_append] at he
  rcases he with he | he
  · obtain ⟨e', -, rfl⟩ := List.mem_map.mp he
    exact .inl rfl
  · right
    split at he
    · contradiction
    · split at he
      · rw [List.mem_singleton.mp he]
        rfl
      · contradiction

/-! ## Where captures are made

The captures of a run are numbered by how many are held around them. The current streams are always
older than the captures to come: in the beginning, in every call of an engine, and throughout a run.
-/

-- The streams of the new capture are current, and the next capture will be a newer one.
theorem Process.beginCapture_within (p : Process) (depth : Nat) :
    (p.beginCapture depth).console.Within (depth + 1) := by
  rintro (_ | _) <;> exact Nat.lt_succ_self depth

theorem Process.log_within {p : Process} {depth : Nat} (h : p.console.Within depth)
    (r : LogRecord) : (p.log r).console.Within depth := by
  intro channel
  rw [(Process.evolves_log depth p r).current]
  exact h channel

theorem RunState.Evolves.within {depth : Nat} {es : Trace} {st st' : RunState}
    (hevolves : st.Evolves depth es st') (h : st.process.console.Within depth) :
    st'.process.console.Within depth := by
  intro channel
  rw [hevolves.process.current]
  exact h channel

namespace Compiler

variable {c : Compiler} {site : CallSite} {argv directory commandLine : Value} {p : Process}
  {call : EngineCall}

theorem within_of_argsCall? (h : c.argsCall? site argv p = some call)
    (hwithin : p.console.Within site.depth) : call.process.console.Within call.site.depth := by
  obtain ⟨args, flags, -, rfl⟩ := argsCall?_eq_some_iff.mp h
  exact Process.log_within hwithin _

theorem within_of_lineCall? (h : c.lineCall? site directory commandLine p = some call) :
    call.process.console.Within call.site.depth := by
  obtain ⟨d, -, hcall⟩ := lineCall?_eq_some_iff.mp h
  exact within_of_argsCall? hcall (p.beginCapture_within site.depth)

end Compiler

namespace LineCompile

/-- The lock is held around the call, and the call takes it: then it waits for ever. -/
def Waits (x : LineCompile) : Prop := x.process.locked = true ∧ x.trace.locks = true

theorem evolves (x : LineCompile) : Process.Evolves x.site.depth x.trace x.process x.after :=
  Compiler.compileLine_evolves x.script.engine_keeps x.site x.directory x.commandLine x.process

/-- After a compile of a command line, the current streams are those from before it, and log records
are all that has been added to them; the lock is in its state from before it; and the working
directory has made the changes that were asked for in the call and could be made, in their order. -/
theorem after_restored (x : LineCompile) (hwithin : x.process.console.Within x.site.depth)
    (hends : ¬ x.Waits) :
    x.after.console.current = x.process.console.current ∧
    (∀ channel, x.after.console.text (x.process.console.current.get channel) =
      x.process.console.text (x.process.console.current.get channel) ++
        x.trace.records.textOn x.process.verbose x.process.console.current
          (x.process.console.current.get channel)) ∧
    x.after.locked = x.process.locked ∧
    x.after.directory =
      x.trace.targets.foldl (WorkingDirectory.attempt x.process.files) x.process.directory := by
  refine ⟨x.evolves.current, ?_, ?_, x.evolves.directory⟩
  · intro channel
    rw [x.evolves.text _ (hwithin channel), Trace.textOn_records]
    intro e he
    exact Compiler.captured_or_isRecord_of_mem_lineTrace _ _ _ _ _ _ he
  · rw [x.evolves.locked]
    by_cases hlocked : x.process.locked = true
    · have hfree : x.trace.locks = false := by
        rw [Bool.eq_false_iff]
        exact fun h => hends ⟨hlocked, h⟩
      rw [hlocked, hfree]
      rfl
    · rw [Bool.not_eq_true] at hlocked
      rw [hlocked]
      rfl

/-- A compile in the root that an interrupt leaves from inside another one, with the lock held. -/
def interrupted : LineCompile where
  script := [.write .out "begin\n", .attempt [.changeDirectory (.text "missing")] [],
    .nested false (.line (.text "/srv/../srv/engines") (.text "b.fs"))
      [.write .err "lost\n", .raise (.of .interrupt "enough")] none "fsc"]
  site := { depth := 1 }
  directory := .text "/"
  commandLine := .text "a.fs"
  process := { (Process.start (.directory [])).beginCapture 0 with locked := true }

theorem after_restored_interrupted :
    interrupted.process.console.Within interrupted.site.depth ∧ ¬ interrupted.Waits ∧
    interrupted.result.isOk = false ∧
    interrupted.after.console.current = interrupted.process.console.current ∧
    interrupted.after.locked = true ∧
    interrupted.after.directory = { names := ["srv", "engines"] } := by
  have hwithin : interrupted.process.console.Within interrupted.site.depth := by
    rintro (_ | _) <;> exact Nat.zero_lt_one
  have hfree : interrupted.trace.locks = false := by decide +kernel
  have hends : ¬ interrupted.Waits := by
    rintro ⟨-, hlocks⟩
    exact Bool.false_ne_true (hfree.symm.trans hlocks)
  have hmoved : interrupted.trace.targets.foldl
      (WorkingDirectory.attempt interrupted.process.files) interrupted.process.directory =
      { names := ["srv", "engines"] } := by decide +kernel
  obtain ⟨hcurrent, -, hlocked, hdirectory⟩ := after_restored interrupted hwithin hends
  exact ⟨hwithin, hends, by decide +kernel, hcurrent, hlocked, hdirectory.trans hmoved⟩

end LineCompile

end EngineHost
