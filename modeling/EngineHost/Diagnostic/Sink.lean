import EngineHost.Diagnostic.Report

/-!
# The sink

An engine gives its reports to a sink, which keeps errors and warnings apart, each in the order of
arrival.
-/

namespace EngineHost

structure Sink where
  errors : List Report := []
  warnings : List Report := []
deriving Repr, Inhabited

namespace Sink

def empty : Sink := {}

def emit (s : Sink) (r : Report) : Sink :=
  if r.isError then { s with errors := s.errors ++ [r] }
  else { s with warnings := s.warnings ++ [r] }

def emitAll (s : Sink) (rs : List Report) : Sink := rs.foldl emit s

/-- All reports, errors first. -/
def ordered (s : Sink) : List Report := s.errors ++ s.warnings

theorem emitAll_nil (s : Sink) : s.emitAll [] = s := rfl

theorem emitAll_cons (s : Sink) (r : Report) (rs : List Report) :
    s.emitAll (r :: rs) = (s.emit r).emitAll rs := rfl

/-- Emitting splits the reports by severity and keeps the order within each. -/
theorem emitAll_eq (s : Sink) (rs : List Report) :
    s.emitAll rs =
      { errors := s.errors ++ rs.filter (·.isError)
        warnings := s.warnings ++ rs.filter (fun r => !r.isError) } := by
  induction rs generalizing s with
  | nil => simp [emitAll_nil]
  | cons r rs ih =>
    rw [emitAll_cons, ih]
    cases h : r.isError <;> simp [emit, h]

end Sink

end EngineHost
