import EngineHost.Diagnostic.Normal
import EngineHost.Proofs.Value.Zero
import Mathlib.Logic.Basic

/-!
# Locations that count

A location counts if it is not marked as empty and at least one number of its range stands for an
integer other than zero. Otherwise nothing of it is kept, not even the file.

An engine that builds a location by the book leaves nothing out and has it marked as empty where its
range equals the zero range. Another engine may give any object in its place and no mark. The two
notions of zero differ, since a text and a fraction that stand for zero are not equal to it; but what
equals zero stands for it, and so the mark makes no difference.

Main facts: `position_ne_unknown_iff`, `settle_of_hasPlace`, `settle_typed`,
`settleLocation_ne_unknown_iff`.
-/

namespace EngineHost

open EngineHost.Number

/-- The four numbers of a range. -/
inductive RangeField where
  | startLine
  | startColumn
  | endLine
  | endColumn

namespace RangeField

def ofRange : RangeField → SourceRange → Option Value
  | startLine => (·.startLine)
  | startColumn => (·.startColumn)
  | endLine => (·.endLine)
  | endColumn => (·.endColumn)

def ofPosition {α : Type} : RangeField → Position α → α
  | startLine => (·.startLine)
  | startColumn => (·.startColumn)
  | endLine => (·.endLine)
  | endColumn => (·.endColumn)

theorem position_eq_iff {α : Type} {p q : Position α} :
    p = q ↔ ∀ f : RangeField, f.ofPosition p = f.ofPosition q := by
  constructor
  · rintro rfl f
    rfl
  · intro h
    obtain ⟨a, b, c, d⟩ := p
    obtain ⟨a', b', c', d'⟩ := q
    cases h startLine
    cases h startColumn
    cases h endLine
    cases h endColumn
    rfl

theorem ofPosition_unknown (f : RangeField) : f.ofPosition Position.unknown = 0 := by
  cases f <;> rfl

end RangeField

namespace SourceLocation

/-- What is given for a number of the range. -/
def given? (l : SourceLocation) (f : RangeField) : Option Value := Part.of? l.range f.ofRange

/-- The integer that a number of the range stands for; zero where it is missing or stands for none. -/
def numberAt (l : SourceLocation) (f : RangeField) : Int := ((l.given? f).bind Value.toInt?).getD 0

theorem ofPosition_position (l : SourceLocation) (f : RangeField) :
    f.ofPosition l.position = l.numberAt f := by
  have hcoordinate : f.ofPosition l.position = l.coordinate f.ofRange := by cases f <;> rfl
  rw [hcoordinate, coordinate, numberAt, given?]
  cases Part.of? l.range f.ofRange <;> rfl

theorem numberAt_ne_zero_iff (l : SourceLocation) (f : RangeField) :
    l.numberAt f ≠ 0 ↔ ∃ v n, l.given? f = some v ∧ v.toInt? = some n ∧ n ≠ 0 := by
  rw [numberAt]
  constructor
  · intro h
    cases hn : (l.given? f).bind Value.toInt? with
    | none => exact absurd (congrArg (Option.getD · 0) hn) h
    | some n =>
      obtain ⟨v, hv, hvn⟩ := Option.bind_eq_some_iff.mp hn
      rw [hn] at h
      exact ⟨v, n, hv, hvn, h⟩
  · rintro ⟨v, n, hv, hvn, hzero⟩
    rw [hv, Option.bind_some, hvn]
    exact hzero

theorem position_ne_unknown_iff (l : SourceLocation) :
    l.position ≠ Position.unknown ↔
      ∃ f v n, l.given? f = some v ∧ v.toInt? = some n ∧ n ≠ 0 := by
  rw [ne_eq, RangeField.position_eq_iff, not_forall]
  refine exists_congr fun f => ?_
  rw [ofPosition_position, RangeField.ofPosition_unknown]
  exact l.numberAt_ne_zero_iff f

/-- The location is not marked as empty, and one of its numbers stands for an integer other than
zero. -/
def HasPlace (l : SourceLocation) : Prop :=
  (∀ mark, l.isEmpty = some mark → mark.isTruthy = false) ∧
    ∃ f v n, l.given? f = some v ∧ v.toInt? = some n ∧ n ≠ 0

theorem isMarkedEmpty_eq_false_iff (l : SourceLocation) :
    l.isMarkedEmpty = false ↔ ∀ mark, l.isEmpty = some mark → mark.isTruthy = false := by
  rw [isMarkedEmpty]
  cases l.isEmpty <;> simp

theorem hasPlace_iff (l : SourceLocation) :
    l.HasPlace ↔ l.isMarkedEmpty = false ∧ l.position ≠ Position.unknown := by
  rw [HasPlace, isMarkedEmpty_eq_false_iff, position_ne_unknown_iff]

theorem settle_of_hasPlace {l : SourceLocation} (h : l.HasPlace) :
    l.settle = (l.position, fieldText l.file) := by
  obtain ⟨hmark, hposition⟩ := (hasPlace_iff l).mp h
  rw [settle, hmark, if_neg]
  simpa using hposition

theorem settle_of_not_hasPlace {l : SourceLocation} (h : ¬ l.HasPlace) :
    l.settle = (Position.unknown, "") := by
  rw [hasPlace_iff, not_and_or, Bool.not_eq_false, not_not] at h
  rw [settle, if_pos]
  simpa using h

end SourceLocation

/-! ## Ranges equal to the zero range -/

namespace SourceRange

theorem isZero_iff (r : SourceRange) :
    r.isZero = true ↔ ∀ (f : RangeField) v, f.ofRange r = some v → v.EqualsZero := by
  have hnumber : ∀ o : Option Value,
      o.all Value.isZero = true ↔ ∀ v, o = some v → v.EqualsZero := by
    intro o
    cases o <;> simp [Value.isZero_iff]
  have hall : r.isZero =
      [r.startLine, r.startColumn, r.endLine, r.endColumn].all (Option.all Value.isZero) := by
    rw [isZero]
    congr 1
    funext o
    cases o <;> rfl
  rw [hall, List.all_eq_true]
  constructor
  · intro h f
    exact (hnumber (f.ofRange r)).mp (h _ (by cases f <;> simp [RangeField.ofRange]))
  · intro h o ho
    rw [hnumber]
    simp only [List.mem_cons, List.not_mem_nil, or_false] at ho
    rcases ho with rfl | rfl | rfl | rfl
    · exact h .startLine
    · exact h .startColumn
    · exact h .endLine
    · exact h .endColumn

/-- The range with a zero for every number that is missing. -/
def filled (r : SourceRange) : SourceRange :=
  { startLine := some (r.startLine.getD (.int 0))
    startColumn := some (r.startColumn.getD (.int 0))
    endLine := some (r.endLine.getD (.int 0))
    endColumn := some (r.endColumn.getD (.int 0)) }

theorem ofRange_filled (r : SourceRange) (f : RangeField) :
    f.ofRange r.filled = some ((f.ofRange r).getD (.int 0)) := by
  cases f <;> rfl

end SourceRange

namespace SourceLocation

/-- The location with no file where none is given, and with zeros for missing numbers. -/
def filled (l : SourceLocation) : SourceLocation :=
  { l with
    file := some (l.file.getD (.text ""))
    range := some <|
      match l.range with
      | none => .whole (SourceRange.filled {})
      | some (.whole r) => .whole r.filled
      | some (.bare v) => .bare v }

theorem numberAt_filled (l : SourceLocation) (f : RangeField) :
    l.filled.numberAt f = l.numberAt f := by
  obtain ⟨file, range, isEmpty⟩ := l
  match range with
  | none => cases f <;> rfl
  | some (.bare v) => rfl
  | some (.whole r) =>
    show ((f.ofRange r.filled).bind Value.toInt?).getD 0 = ((f.ofRange r).bind Value.toInt?).getD 0
    rw [SourceRange.ofRange_filled]
    cases f.ofRange r <;> rfl

theorem settle_filled (l : SourceLocation) : l.filled.settle = l.settle := by
  have hposition : l.filled.position = l.position := by
    rw [RangeField.position_eq_iff]
    intro f
    rw [ofPosition_position, ofPosition_position, numberAt_filled]
  have hfile : fieldText l.filled.file = fieldText l.file := by
    obtain ⟨file, range, isEmpty⟩ := l
    cases file <;> rfl
  have hmark : l.filled.isMarkedEmpty = l.isMarkedEmpty := rfl
  rw [settle, settle, hposition, hfile, hmark]

/-- A number that is given in a range equal to zero stands for zero. -/
theorem toInt?_of_hasZeroRange {l : SourceLocation} (h : l.hasZeroRange = true) {f : RangeField}
    {v : Value} (hv : l.given? f = some v) : v.toInt? = some 0 := by
  obtain ⟨file, range, isEmpty⟩ := l
  match range with
  | none => cases hv
  | some (.bare w) => cases hv
  | some (.whole r) => exact (r.isZero_iff.mp h f v hv).toInt?_eq

theorem exists_toInt?_of_hasZeroRange_filled {l : SourceLocation}
    (h : l.filled.hasZeroRange = true) (f : RangeField) :
    ∃ v, l.filled.given? f = some v ∧ v.toInt? = some 0 := by
  suffices hgiven : ∃ v, l.filled.given? f = some v by
    obtain ⟨v, hv⟩ := hgiven
    exact ⟨v, hv, toInt?_of_hasZeroRange h hv⟩
  obtain ⟨file, range, isEmpty⟩ := l
  match range with
  | none => exact ⟨_, SourceRange.ofRange_filled {} f⟩
  | some (.bare w) => cases h
  | some (.whole r) => exact ⟨_, r.ofRange_filled f⟩

theorem position_of_hasZeroRange {l : SourceLocation} (h : l.hasZeroRange = true) :
    l.position = Position.unknown := by
  rw [RangeField.position_eq_iff]
  intro f
  rw [ofPosition_position, RangeField.ofPosition_unknown, numberAt]
  cases hv : l.given? f with
  | none => rfl
  | some v => rw [Option.bind_some, toInt?_of_hasZeroRange h hv, Option.getD_some]

/-- Marking a location by its range changes nothing, since its range is looked at anyway. -/
theorem settle_marked {l : SourceLocation} (h : l.isEmpty = none) :
    l.marked.settle = l.settle := by
  have hunmarked : l.isMarkedEmpty = false := by
    rw [isMarkedEmpty, h]
    rfl
  have hmarked : l.marked.isMarkedEmpty = l.hasZeroRange := rfl
  have hposition : l.marked.position = l.position := rfl
  have hfile : l.marked.file = l.file := rfl
  rw [settle, settle, hmarked, hunmarked, hposition, hfile, Bool.false_or]
  cases hzero : l.hasZeroRange with
  | false => rw [Bool.false_or]
  | true =>
    rw [position_of_hasZeroRange hzero, Bool.true_or]
    rfl

/-- The location as an engine builds it by the book. -/
def typed (l : SourceLocation) : SourceLocation := l.filled.marked

theorem settle_typed {l : SourceLocation} (h : l.isEmpty = none) : l.typed.settle = l.settle := by
  have hfilled : l.filled.isEmpty = none := h
  rw [typed, settle_marked hfilled, settle_filled]

end SourceLocation

/-! ## Locations that may be missing -/

/-- There is a location, and it counts. -/
def HasPlace (location : Option (Part SourceLocation)) : Prop :=
  ∃ l, location = some (.whole l) ∧ l.HasPlace

theorem settleLocation_of_not_hasPlace {location : Option (Part SourceLocation)}
    (h : ¬ HasPlace location) : settleLocation location = (Position.unknown, "") := by
  match location with
  | none => rfl
  | some (.bare v) => rfl
  | some (.whole l) => exact l.settle_of_not_hasPlace fun hl => h ⟨l, rfl, hl⟩

theorem settleLocation_ne_unknown_iff (location : Option (Part SourceLocation)) :
    (settleLocation location).1 ≠ Position.unknown ↔ HasPlace location := by
  constructor
  · intro hposition
    refine Classical.byContradiction fun h => ?_
    rw [settleLocation_of_not_hasPlace h] at hposition
    exact hposition rfl
  · rintro ⟨l, rfl, hl⟩
    show l.settle.1 ≠ Position.unknown
    rw [l.settle_of_hasPlace hl]
    exact ((l.hasPlace_iff).mp hl).2

end EngineHost
