import EngineHost.Proofs.Argument.Switches
import EngineHost.Proofs.Compile.Faults
import EngineHost.Proofs.Directory.Targets

/-!
# Compiles that end before the engine

Two things are done before a compile calls its engine: the working directory is changed, inside the
capture, and the argument vector is looked at, in three places. If one of them fails there is no call,
whatever the engine is. A directory that cannot be changed to is reported, and after the capture is
released nothing is different but for the record of the fault; an argument vector that cannot be used
raises its signal and changes nothing.

Main facts: `prepare_eq_error_iff_unusable`, `compileLine_of_follow_error`, `ended_before_engine`.
-/

namespace EngineHost

/-! ## Captures that take nothing in -/

theorem Console.release_begin (c : Console) (id : Nat) : (c.begin id).release id = c.renew id := by
  have hheld : (c.renew id).holds id = false := by simp [holds, renew]
  exact release_redirect _ hheld

theorem Owner.exists_below (o : Owner) : ∃ depth, o.Below depth := by
  cases o with
  | ambient => exact ⟨0, trivial⟩
  | capture id => exact ⟨id + 1, Nat.lt_succ_self id⟩

/-- The process `q` is `p` with a record logged, and a capture of its own with buffers of its own taken
and released in between. -/
structure Process.Logged (id : Nat) (r : LogRecord) (p q : Process) : Prop where
  files : q.files = p.files
  verbose : q.verbose = p.verbose
  directory : q.directory = p.directory
  locked : q.locked = p.locked
  current : q.console.current = p.console.current
  saved : ∀ other, other ≠ id → q.console.saved other = p.console.saved other
  text : ∀ stream : Stream, stream.owner ≠ .capture id →
    q.console.text stream = (p.log r).console.text stream

theorem Process.logged_endCapture (p : Process) (id : Nat) (r : LogRecord) :
    Logged id r p (((p.beginCapture id).endCapture id).log r) := by
  have hend : (p.beginCapture id).endCapture id = { p with console := p.console.renew id } := by
    rw [endCapture, beginCapture, Console.release_begin]
  rw [hend]
  have hlog := fun depth => evolves_log depth { p with console := p.console.renew id } r
  constructor
  · exact (hlog 0).files
  · exact (hlog 0).verbose
  · exact (hlog 0).directory
  · simpa [Trace.locks, Trace.acts, Act.called, Act.locks] using (hlog 0).locked
  · exact (hlog 0).current
  · intro other hne
    rw [(hlog (other + 1)).saved other (Nat.lt_succ_self other)]
    simp [Console.renew, hne]
  · intro stream hne
    obtain ⟨depth, hbelow⟩ := stream.owner.exists_below
    have hkept : (p.console.renew id).text stream = p.console.text stream := by
      simp [Console.renew, hne]
    rw [(hlog depth).text stream hbelow, (evolves_log depth p r).text stream hbelow, hkept]
    rfl

namespace Compiler

variable {c : Compiler} {site : CallSite} {argv directory commandLine : Value} {p : Process}
  {programName : String}

/-! ## Directories that cannot be changed to -/

theorem lineCall?_of_follow_error {e : DirectoryError}
    (h : p.directory.follow p.files directory = .error e) :
    c.lineCall? site directory commandLine p = none := by
  rw [Option.eq_none_iff_forall_not_mem]
  intro call hcall
  obtain ⟨d, hd, -⟩ := lineCall?_eq_some_iff.mp hcall
  rw [h] at hd
  contradiction

/-- What is left of the compile does not depend on the compiler. -/
theorem compileLine_of_follow_error {e : DirectoryError}
    (h : p.directory.follow p.files directory = .error e) :
    c.compileLine site directory commandLine p =
      { result := .ok (1, [internalErrorMarker, (site.raise e.signal).faultLine], [])
        journal := []
        process := ((p.beginCapture site.depth).endCapture site.depth).log
          (.fault (site.raise e.signal)) } := by
  have habsorbed : c.absorbed? site directory commandLine p = some (site.raise e.signal) :=
    absorbed?_eq_some_iff.mpr (.directory h)
  rw [compileLine_of_absorbed habsorbed, guarded_of_error h]
  rfl

/-! ## Argument vectors that cannot be used -/

/-- An argument vector cannot be used, and why. -/
inductive Unusable (programName : String) : Value → ArgumentError → Prop
  | notSequence {argv : Value} (htruthy : argv.isTruthy = true)
      (hlist : ∀ entries, argv ≠ .list entries) (htext : ∀ s, argv ≠ .text s) :
      Unusable programName argv (.notSequence argv.kindName)
  | first {v : Value} {rest : List Value} (h : v.text? = none) :
      Unusable programName (.list (v :: rest)) (.notText v.kindName)
  /-- The search for a switch comes to an entry that is no text. -/
  | reached {entries : List Value} {before : List String} {v : Value}
      (hstop : Value.StopsAt entries before v) (hbefore : before ≠ [])
      (hmissing : ∃ s ∈ Switch.display,
        ∀ arg ∈ Program.ensureTexts programName before, ¬ s.IsGivenBy arg) :
      Unusable programName (.list entries) (.notText v.kindName)

theorem prepare_eq_error_iff {e : ArgumentError} :
    prepare programName argv = .error e ↔
      Program.ensure programName argv = .error e ∨
        ∃ args, Program.ensure programName argv = .ok args ∧ DisplayFlags.scan args = .error e := by
  rw [prepare]
  cases Program.ensure programName argv with
  | error e' => simp [Except.bind]
  | ok args => cases hscan : DisplayFlags.scan args <;> simp [Except.bind, Except.map, hscan]

theorem prepare_of_not_truthy (h : argv.isTruthy = false) :
    prepare programName argv = prepare programName (.list (Value.texts [])) := by
  rw [prepare, prepare, Program.ensure_texts, Program.ensure, h]
  rfl

/-- A text is the vector of its characters. -/
theorem prepare_text (s : String) :
    prepare programName (.text s) =
      prepare programName (.list (Value.texts (s.toList.map String.singleton))) := by
  have hentries : (Value.text s).entries =
      (Value.list (Value.texts (s.toList.map String.singleton))).entries := by
    simp [Value.entries, Value.texts]
  have htruthy : (Value.text s).isTruthy =
      (Value.list (Value.texts (s.toList.map String.singleton))).isTruthy := by
    rw [Bool.eq_iff_iff]
    simp [Value.isTruthy, Value.texts]
  rw [prepare, prepare, Program.ensure, Program.ensure, hentries, htruthy]

/-- The texts before the stop are still there when a program argument is in front. -/
theorem ensure_of_stopsAt (programName : String) {entries : List Value} {before : List String}
    {v : Value} (h : Value.StopsAt entries before v) (hbefore : before ≠ []) :
    ∃ args, Program.ensure programName (.list entries) = .ok args ∧
      Value.StopsAt args (Program.ensureTexts programName before) v := by
  obtain ⟨hv, after, rfl⟩ := h
  obtain ⟨first, rest, rfl⟩ := List.exists_cons_of_ne_nil hbefore
  rw [Value.texts, List.map_cons, List.cons_append, Program.ensure_cons_text, Program.ensureTexts]
  refine ⟨_, rfl, hv, after, ?_⟩
  split <;> rfl

theorem prepare_of_unusable {e : ArgumentError} (h : Unusable programName argv e) :
    prepare programName argv = .error e := by
  rw [prepare_eq_error_iff]
  cases h with
  | notSequence htruthy hlist htext =>
    refine .inl ?_
    rw [Program.ensure, if_pos htruthy]
    cases argv with
    | list entries => exact absurd rfl (hlist entries)
    | text s => exact absurd rfl (htext s)
    | _ => rfl
  | first hv =>
    refine .inl ?_
    simp only [Program.ensure, Value.isTruthy, List.isEmpty_cons, Bool.not_false, if_true,
      Value.entries, Except.bind, Value.expectText_of_text?_eq_none hv, Except.map]
  | reached hstop hbefore hmissing =>
    obtain ⟨args, hensure, hargs⟩ := ensure_of_stopsAt programName hstop hbefore
    exact .inr ⟨args, hensure, DisplayFlags.scan_eq_error_iff.mpr ⟨_, _, hargs, hmissing, rfl⟩⟩

/-- A vector that can be used is prepared. -/
theorem prepared_or_unusable (programName : String) (argv : Value) :
    (∃ prepared, prepare programName argv = .ok prepared) ∨
      ∃ e, Unusable programName argv e := by
  cases htruthy : argv.isTruthy with
  | false =>
    rw [prepare_of_not_truthy htruthy]
    exact .inl ⟨_, prepare_texts programName []⟩
  | true =>
    cases argv with
    | text s =>
      rw [prepare_text]
      exact .inl ⟨_, prepare_texts programName _⟩
    | list entries =>
      obtain ⟨args, rfl⟩ | ⟨before, v, hstop⟩ := Value.exists_texts_or_stopsAt entries
      · exact .inl ⟨_, prepare_texts programName args⟩
      · by_cases hbefore : before = []
        · obtain ⟨hv, after, rfl⟩ := hstop
          subst hbefore
          exact .inr ⟨_, .first hv⟩
        · obtain ⟨args, hensure, hargs⟩ := ensure_of_stopsAt programName hstop hbefore
          by_cases hmissing : ∃ s ∈ Switch.display,
              ∀ arg ∈ Program.ensureTexts programName before, ¬ s.IsGivenBy arg
          · exact .inr ⟨_, .reached hstop hbefore hmissing⟩
          · -- Both searches end before the entry that is no text.
            have hscan := DisplayFlags.scan_of_stopsAt hargs
            rw [DisplayFlags.exists_missing_iff, Bool.not_eq_false] at hmissing
            rw [if_pos hmissing] at hscan
            exact .inl ⟨_, prepare_eq_ok_iff.mpr ⟨hensure, hscan⟩⟩
    | null | bool _ | int _ | real _ =>
      exact .inr ⟨_, .notSequence htruthy (by simp) (by simp)⟩

theorem prepare_eq_error_iff_unusable {e : ArgumentError} :
    prepare programName argv = .error e ↔ Unusable programName argv e := by
  constructor
  · intro h
    obtain ⟨prepared, hprepared⟩ | ⟨e', hunusable⟩ := prepared_or_unusable programName argv
    · rw [h] at hprepared
      contradiction
    · have he' := prepare_of_unusable hunusable
      rw [h] at he'
      cases he'
      exact hunusable
  · exact prepare_of_unusable

theorem argsCall?_of_prepare_error {e : ArgumentError} (h : prepare c.programName argv = .error e) :
    c.argsCall? site argv p = none := by
  rw [argsCall?, h]

theorem compileArgs_of_prepare_error {e : ArgumentError}
    (h : prepare c.programName argv = .error e) :
    c.compileArgs site argv p = .failed (site.raise (.of .type e.message)) p := by
  rw [compileArgs, h]

/-- If the directory cannot be changed to, a compile of a command line reports that and nothing else:
its answer, its journal and the process afterwards are the same for every command line and every
compiler, whose engine is not called; and the process is as it was, but for the record of the fault.
Which targets these are, what each error is, and where every other target leads, is said by
`WorkingDirectory.Leads`. If the program argument or the display switches cannot be read off an
argument vector, a compile raises that error: the process is as it was, and the engine, which is again
not called, makes no difference. These are the unusable vectors. -/
theorem ended_before_engine (site : CallSite) (p : Process) :
    (∀ directory e, p.directory.follow p.files directory = .error e →
      ∃ q, Process.Logged site.depth (.fault (site.raise e.signal)) p q ∧
        ∀ (c : Compiler) (commandLine : Value),
          c.lineCall? site directory commandLine p = none ∧
          c.compileLine site directory commandLine p =
            { result := .ok (1, [internalErrorMarker, (site.raise e.signal).faultLine], [])
              journal := []
              process := q }) ∧
    (∀ directory r, p.directory.follow p.files directory = r ↔
      p.directory.Leads p.files directory r) ∧
    (∀ (c : Compiler) (argv : Value) (e : ArgumentError),
      (Program.ensure c.programName argv = .error e ∨
        ∃ args, Program.ensure c.programName argv = .ok args ∧ DisplayFlags.scan args = .error e) →
      c.argsCall? site argv p = none ∧
      c.compileArgs site argv p = .failed (site.raise (.of .type e.message)) p) ∧
    ∀ programName argv e,
      (Program.ensure programName argv = .error e ∨
        ∃ args, Program.ensure programName argv = .ok args ∧ DisplayFlags.scan args = .error e) ↔
      Unusable programName argv e := by
  refine ⟨?_, fun directory r => WorkingDirectory.follow_eq_iff, ?_, ?_⟩
  · intro directory e h
    refine ⟨_, p.logged_endCapture site.depth (.fault (site.raise e.signal)), ?_⟩
    exact fun c commandLine => ⟨lineCall?_of_follow_error h, compileLine_of_follow_error h⟩
  · intro c argv e h
    have hprepare := prepare_eq_error_iff.mpr h
    exact ⟨argsCall?_of_prepare_error hprepare, compileArgs_of_prepare_error hprepare⟩
  · intro programName argv e
    rw [← prepare_eq_error_iff, prepare_eq_error_iff_unusable]

end Compiler

end EngineHost
