import EngineHost.Diagnostic.Report
import EngineHost.Number.IntText

/-!
# Building reports

Engines build their reports from a few values. The location of a long report is given as a span of
up to four coordinates; missing ones are zero.
-/

namespace EngineHost

/-- A span with more coordinates than a range has. -/
structure SpanError where
  given : Nat
deriving DecidableEq, Repr

namespace SpanError

/-- The wording counts the range itself as one of the arguments. -/
def message (e : SpanError) : String :=
  "Range.__init__() takes from 1 to 5 positional arguments but " ++ Number.intText (e.given + 1) ++
    " were given"

end SpanError

def SourceRange.ofSpan? (span : List Value) : Except SpanError SourceRange :=
  if span.length ≤ 4 then
    .ok { startLine := span[0]?, startColumn := span[1]?, endLine := span[2]?, endColumn := span[3]? }
  else .error ⟨span.length⟩

structure LongReport where
  number : Value
  message : Value
  isError : Value := .bool true
  subcategory : Value := .text "typecheck"
  file : Value := .text "test.fs"
  span : Option (List Value) := some [.int 3, .int 5, .int 3, .int 9]

namespace LongReport

/-- The location of the report; none without a span. -/
def location (r : LongReport) : Except SpanError (Part SourceLocation) :=
  match r.span with
  | none => .ok (.bare .null)
  | some span => (SourceRange.ofSpan? span).map fun range =>
      .whole (SourceLocation.marked { file := some r.file, range := some (.whole range) })

def build (r : LongReport) : Except SpanError Report :=
  r.location.map fun location =>
    .long (some r.isError) (some (.whole
      { message := some r.message
        entry := some (.whole { number := some r.number, subcategory := some r.subcategory })
        location := some location }))

end LongReport

end EngineHost
