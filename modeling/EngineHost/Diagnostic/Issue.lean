/-!
# Issues

An issue is a problem in its settled form: nothing is missing, and a position is four integers, all
zero when it is not known. Issues are compared by value.
-/

namespace EngineHost

inductive Severity where
  | error
  | warning
deriving DecidableEq, Repr, Inhabited

namespace Severity

def word : Severity → String
  | error => "error"
  | warning => "warning"

def ofWord? : String → Option Severity
  | "error" => some error
  | "warning" => some warning
  | _ => none

end Severity

/-- A position: where an issue starts and where it ends. -/
structure Position (α : Type) where
  startLine : α
  startColumn : α
  endLine : α
  endColumn : α
deriving DecidableEq, Repr, Inhabited

namespace Position

/-- The position of an issue whose place is not known. -/
def unknown : Position Int := ⟨0, 0, 0, 0⟩

variable {α β : Type}

def map (f : α → β) (p : Position α) : Position β :=
  ⟨f p.startLine, f p.startColumn, f p.endLine, f p.endColumn⟩

def toList (p : Position α) : List α := [p.startLine, p.startColumn, p.endLine, p.endColumn]

end Position

/-- A problem in its settled form. The coordinates of its position are integers unless a caller puts
an issue together itself. -/
structure Issue (α : Type := Int) where
  text : String
  severity : Severity
  position : Position α
  subcategory : String := ""
  code : String := ""
  file : String := ""
deriving DecidableEq, Repr

end EngineHost
