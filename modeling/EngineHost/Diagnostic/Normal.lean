import EngineHost.Diagnostic.Issue
import EngineHost.Diagnostic.Report
import EngineHost.Number.IntText
import EngineHost.Value.Integer
import EngineHost.Value.Text

/-!
# Settling reports

Every report becomes an issue. Each field of the issue depends on one part of the report only, and a
part that is missing or malformed leaves that field empty without touching the others.
-/

namespace EngineHost

open EngineHost.Number

/-- A value as a field of an issue: null is the empty text. -/
def Value.fieldText : Value → String
  | .null => ""
  | v => v.display

def fieldText (v : Option Value) : String := (v.map Value.fieldText).getD ""

def codeLetters : String := "FS"

/-- The least number of characters after the letters. -/
def codeWidth : Nat := 4

/-- The code of a catalog number: the letters and the number in at least four places. A value that
stands for no integer has no code. -/
def formatCode (v : Value) : String :=
  match v.toInt? with
  | some n => codeLetters ++ String.ofList (paddedDigits codeWidth n)
  | none => ""

namespace Report

/-- The severity of a report, by its mark. One without a mark is an error. -/
def severity (r : Report) : Severity :=
  if (r.isError?.getD (.bool true)).isTruthy then .error else .warning

end Report

namespace SourceLocation

/-- A coordinate of the range as an integer; one that is missing or stands for none is zero. -/
def coordinate (l : SourceLocation) (f : SourceRange → Option Value) : Int :=
  ((Part.of? l.range f).map Value.toIntOrZero).getD 0

def position (l : SourceLocation) : Position Int :=
  { startLine := l.coordinate (·.startLine)
    startColumn := l.coordinate (·.startColumn)
    endLine := l.coordinate (·.endLine)
    endColumn := l.coordinate (·.endColumn) }

/-- Is the location marked as empty? One without a mark is not. -/
def isMarkedEmpty (l : SourceLocation) : Bool := (l.isEmpty.map Value.isTruthy).getD false

/-- Position and file of a location. Where the location is empty, or its position is not known, its
file counts for nothing either. -/
def settle (l : SourceLocation) : Position Int × String :=
  if l.isMarkedEmpty || l.position = Position.unknown then (Position.unknown, "")
  else (l.position, fieldText l.file)

end SourceLocation

/-- Position and file of a location that may be missing or a bare value. -/
def settleLocation : Option (Part SourceLocation) → Position Int × String
  | some (.whole l) => l.settle
  | _ => (Position.unknown, "")

namespace Report

def settleLong (severity : Severity) (details : Option (Part Details)) : Issue :=
  let entry := Part.of? details (·.entry)
  let (position, file) := settleLocation (Part.of? details (·.location))
  { text := fieldText (Part.of? details (·.message))
    severity := severity
    position := position
    subcategory := fieldText (Part.of? entry (·.subcategory))
    code := ((Part.of? entry (·.number)).map formatCode).getD ""
    file := file }

/-- The issue of a report without details: its text only. -/
def settleShort (severity : Severity) (text : Option Value) : Issue :=
  { text := fieldText text, severity := severity, position := Position.unknown }

def settle (r : Report) : Issue :=
  match r with
  | long _ details => settleLong r.severity details
  | short _ text => settleShort r.severity (some text)
  | foreign _ text _ => settleShort r.severity text
  | bare _ => settleShort r.severity none

def settleAll (rs : List Report) : List Issue := rs.map settle

end Report

end EngineHost
