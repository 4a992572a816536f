import EngineHost.Diagnostic.Issue
import EngineHost.Value.Equality
import EngineHost.Value.Text

/-!
# Issues put together by a caller

A caller may put an issue together itself. Its severity is then given as a value, which has to be
one of the two words, and its coordinates may be values of any kind.
-/

namespace EngineHost

/-- A value was given as a severity that is none. -/
structure SeverityError where
  given : Value

namespace SeverityError

def message (e : SeverityError) : String :=
  e.given.literal ++ " is not a valid CompilationIssueType"

end SeverityError

def Severity.ofValue (v : Value) : Except SeverityError Severity :=
  match v.text?.bind Severity.ofWord? with
  | some severity => .ok severity
  | none => .error ⟨v⟩

/-- Equality of positions, coordinate by coordinate. -/
def Position.equals (p q : Position Value) : Bool := Value.equalsList p.toList q.toList

def Issue.equals (i j : Issue Value) : Bool :=
  i.text == j.text && i.severity == j.severity && i.position.equals j.position &&
    i.subcategory == j.subcategory && i.code == j.code && i.file == j.file

end EngineHost
