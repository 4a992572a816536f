import EngineHost.Argument.Switch
import EngineHost.Diagnostic.Issue
import EngineHost.Value.Text

/-!
# Lines of issues

An issue is written on one line: position, severity, code and text. The display switches choose
among three styles; the editor style wins over the ranges.

    (3,5): error FS0039: not defined
    (3,5-3,9): error FS0039: not defined
    (3,5,3,9): typecheck error FS0039: not defined

The editor style puts the subcategory before the severity even when it is empty, which leaves a
second blank there.
-/

namespace EngineHost

open EngineHost.Number

/-- A coordinate can be written. -/
class Coordinate (α : Type) where
  write : α → String

instance : Coordinate Int := ⟨intText⟩

instance : Coordinate Value := ⟨Value.display⟩

namespace Issue

variable {α : Type} [Coordinate α]

def writePosition (flags : DisplayFlags) (p : Position α) : String :=
  let start := Coordinate.write p.startLine ++ "," ++ Coordinate.write p.startColumn
  let final := Coordinate.write p.endLine ++ "," ++ Coordinate.write p.endColumn
  if flags.editorErrors then "(" ++ start ++ "," ++ final ++ ")"
  else if flags.errorRanges then "(" ++ start ++ "-" ++ final ++ ")"
  else "(" ++ start ++ ")"

/-- The severity, after the subcategory if the style shows it. -/
def writeKind (flags : DisplayFlags) (i : Issue α) : String :=
  if flags.editorErrors then i.subcategory ++ " " ++ i.severity.word else i.severity.word

def render (flags : DisplayFlags) (i : Issue α) : String :=
  writePosition flags i.position ++ ": " ++ writeKind flags i ++ " " ++ i.code ++ ": " ++ i.text

def renderAll (flags : DisplayFlags) (issues : List (Issue α)) : List String :=
  issues.map (render flags)

end Issue

end EngineHost
