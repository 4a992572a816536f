import EngineHost.Proofs.Compile.Faults
import EngineHost.Proofs.Value.Zero

/-!
# Exit codes

The exit code of a compile depends on two things only: how the run of the engine ended, and the code
that the exit capability recorded last. It is 0 for a run that returned, or was unwound by the exit
capability, with a recorded code that equals zero, and for a run that asked to leave the process
with no code or with zero; for every other run that the host settles it is 1.
-/

namespace EngineHost

section

variable {last : Value} {s : Signal}

end

namespace Termination

theorem status_eq_zero_or_one (t : Termination) : t.status = 0 ∨ t.status = 1 := by
  unfold status
  split
  · exact .inl rfl
  · exact .inr rfl

end Termination

namespace Compiler

variable {c : Compiler} {site : CallSite} {directory commandLine : Value} {p : Process} {code : Nat}

theorem exitCode_guarded {lines : List String}
    (h : (c.guarded site directory commandLine p).result = .ok (code, lines)) :
    code = 0 ∨ code = 1 := by
  cases hd : p.directory.follow p.files directory with
  | error e =>
    rw [guarded_result_of_error hd] at h
    contradiction
  | ok d =>
    obtain ⟨call, hcall⟩ := exists_lineCall? c site commandLine hd
    obtain ⟨flags, -, hresult⟩ := guarded_result hcall
    rw [hresult] at h
    cases hsettle : Termination.ofEnding (call.run c.engine).exitCode
        (call.run c.engine).ending with
    | error s =>
      rw [hsettle] at h
      contradiction
    | ok t =>
      rw [hsettle] at h
      cases h
      exact t.status_eq_zero_or_one

/-- A compile of a command line answers with 0 or 1, whatever its engine is. -/
theorem exitCode_compileLine {lines errLines : List String}
    (h : (c.compileLine site directory commandLine p).result = .ok (code, lines, errLines)) :
    code = 0 ∨ code = 1 := by
  rw [compileLine_result] at h
  cases hresult : (c.guarded site directory commandLine p).result with
  | ok answer =>
    rw [hresult] at h
    cases h
    exact exitCode_guarded hresult
  | error s =>
    -- A report of an internal error has the exit code of failure.
    rw [hresult] at h
    by_cases hs : s.isOrdinary = true
    · simp only [hs, if_true, faultReport, Except.ok.injEq, Prod.mk.injEq] at h
      exact .inr h.1.symm
    · simp [hs] at h

end Compiler

section

variable {script script' : Script} {last last' : Value} {ending ending' : Option Signal}
  {code code' : Nat}

end

end EngineHost
