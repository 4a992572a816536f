import EngineHost.Value.Equality

/-!
# Reports

An engine reports problems in several shapes and checks none of the values it puts in. A short
report is a severity and a text. A long one has details: a message, a catalog entry and a location.
Any part of a long report may be missing, or may be a bare value that has no parts of its own. What
an engine reports may also be a foreign object or a bare value.
-/

namespace EngineHost

/-- A part that has parts of its own, or a bare value in its place, which has none. -/
inductive Part (α : Type) where
  | bare (v : Value)
  | whole (a : α)
deriving Repr

namespace Part

variable {α β : Type}

/-- A part of a part; a bare value has none. -/
def get? (f : α → Option β) : Part α → Option β
  | bare _ => none
  | whole a => f a

/-- A part of something that may itself be missing. -/
def of? (p : Option (Part α)) (f : α → Option β) : Option β := p.bind (get? f)

end Part

/-- A range of lines and columns as an engine gives it. -/
structure SourceRange where
  startLine : Option Value := none
  startColumn : Option Value := none
  endLine : Option Value := none
  endColumn : Option Value := none
deriving Repr, Inhabited

namespace SourceRange

/-- Is every coordinate equal to zero, where a missing one is zero? -/
def isZero (r : SourceRange) : Bool :=
  [r.startLine, r.startColumn, r.endLine, r.endColumn].all fun
    | some v => v.isZero
    | none => true

end SourceRange

/-- A file and a range in it, with a mark that tells whether the location is empty. -/
structure SourceLocation where
  file : Option Value := none
  range : Option (Part SourceRange) := none
  isEmpty : Option Value := none
deriving Repr, Inhabited

namespace SourceLocation

/-- Is the range zero? A bare value in place of a range is not. -/
def hasZeroRange (l : SourceLocation) : Bool :=
  match l.range with
  | none => true
  | some (.whole r) => r.isZero
  | some (.bare _) => false

/-- The location with its mark worked out from the range, whatever mark was given. -/
def marked (l : SourceLocation) : SourceLocation :=
  { l with isEmpty := some (.bool l.hasZeroRange) }

end SourceLocation

structure CatalogEntry where
  number : Option Value := none
  subcategory : Option Value := none
deriving Repr, Inhabited

structure Details where
  message : Option Value := none
  entry : Option (Part CatalogEntry) := none
  location : Option (Part SourceLocation) := none
deriving Repr, Inhabited

inductive Report where
  | short (isError text : Value)
  | long (isError : Option Value) (details : Option (Part Details))
  | foreign (isError text : Option Value) (details : Option (Part Details))
  | bare (v : Value)
deriving Repr, Inhabited

namespace Report

def isError? : Report → Option Value
  | short isError _ => some isError
  | long isError _ => isError
  | foreign isError _ _ => isError
  | bare _ => none

/-- Does the report count as an error? One without a severity mark does. -/
def isError (r : Report) : Bool :=
  match r.isError? with
  | some v => v.isTruthy
  | none => true

end Report

end EngineHost
