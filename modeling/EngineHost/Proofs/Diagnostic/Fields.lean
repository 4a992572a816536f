import EngineHost.Proofs.Diagnostic.Locations
import EngineHost.Proofs.Diagnostic.Order

/-!
# Parts of reports and fields of issues

Five parts of a long report count, wherever it keeps them: its mark, the message, the subcategory, the
number and the location. Each of them makes its own fields of the issue, and the location makes two,
position and file. What is wrong with one part is not seen in the fields of another.

Main facts: `settle_long`, `settle_sameIn`, `settle_by_parts`, `settle_locatedAt_typed`.
-/

namespace EngineHost

/-- The parts of a long report that its issue is made of. -/
inductive ReportPart where
  | mark
  | message
  | subcategory
  | number
  | location
deriving DecidableEq

namespace Report

def IsLong : Report → Prop
  | long _ _ => True
  | _ => False

/-- The details of a long report; those of other reports do not count. -/
def details? : Report → Option (Part Details)
  | long _ details => details
  | _ => none

def message? (r : Report) : Option Value := Part.of? r.details? (·.message)

def entry? (r : Report) : Option (Part CatalogEntry) := Part.of? r.details? (·.entry)

def subcategory? (r : Report) : Option Value := Part.of? r.entry? (·.subcategory)

def number? (r : Report) : Option Value := Part.of? r.entry? (·.number)

def location? (r : Report) : Option (Part SourceLocation) := Part.of? r.details? (·.location)

/-- The text of a report that is not long. -/
def text? : Report → Option Value
  | short _ text => some text
  | foreign _ text _ => text
  | long _ _ => none
  | bare _ => none

/-- The two reports have the same in one part, or both have nothing there. -/
def SameIn (r s : Report) : ReportPart → Prop
  | .mark => r.isError? = s.isError?
  | .message => r.message? = s.message?
  | .subcategory => r.subcategory? = s.subcategory?
  | .number => r.number? = s.number?
  | .location => r.location? = s.location?

end Report

/-- The two issues agree in the fields that belong to one part of a report. -/
def Issue.SameIn (i j : Issue) : ReportPart → Prop
  | .mark => i.severity = j.severity
  | .message => i.text = j.text
  | .subcategory => i.subcategory = j.subcategory
  | .number => i.code = j.code
  | .location => i.position = j.position ∧ i.file = j.file

namespace Report

theorem settle_long {r : Report} (hr : r.IsLong) :
    r.settle =
      { text := fieldText r.message?
        severity := r.severity
        position := (settleLocation r.location?).1
        subcategory := fieldText r.subcategory?
        code := (r.number?.map formatCode).getD ""
        file := (settleLocation r.location?).2 } := by
  cases r with
  | long isError details => rfl
  | _ => cases hr

theorem settle_not_long {r : Report} (hr : ¬ r.IsLong) :
    r.settle =
      { text := fieldText r.text?, severity := r.severity, position := Position.unknown } := by
  cases r with
  | long isError details => exact absurd trivial hr
  | _ => rfl

theorem severity_settle_eq_warning_iff (r : Report) :
    r.settle.severity = .warning ↔ ∃ mark, r.isError? = some mark ∧ mark.isTruthy = false := by
  rw [severity_settle, severity_eq_warning_iff, isError]
  cases r.isError? <;> simp

/-- The fields of a part are made of that part alone. -/
theorem settle_sameIn {r s : Report} (hr : r.IsLong) (hs : s.IsLong) {part : ReportPart}
    (h : r.SameIn s part) : r.settle.SameIn s.settle part := by
  rw [settle_long hr, settle_long hs]
  cases part with
  | mark =>
    have hmark : r.isError? = s.isError? := h
    show r.severity = s.severity
    rw [severity, severity, hmark]
  | message => exact congrArg fieldText h
  | subcategory => exact congrArg fieldText h
  | number => exact congrArg (fun number : Option Value => (number.map formatCode).getD "") h
  | location =>
    have hlocation : r.location? = s.location? := h
    show (settleLocation r.location?).1 = _ ∧ (settleLocation r.location?).2 = _
    rw [hlocation]
    exact ⟨rfl, rfl⟩

/-! ## Replacing parts -/

/-- A long report put together from its parts. -/
def ofParts (mark message subcategory number : Option Value)
    (location : Option (Part SourceLocation)) : Report :=
  long mark (some (.whole
    { message := message
      entry := some (.whole { number := number, subcategory := subcategory })
      location := location }))

/-- The report with one part taken from another report, which may have nothing there. -/
def replaced (r s : Report) (part : ReportPart) : Report :=
  ofParts (if part = .mark then s.isError? else r.isError?)
    (if part = .message then s.message? else r.message?)
    (if part = .subcategory then s.subcategory? else r.subcategory?)
    (if part = .number then s.number? else r.number?)
    (if part = .location then s.location? else r.location?)

theorem isLong_replaced (r s : Report) (part : ReportPart) : (r.replaced s part).IsLong := trivial

theorem replaced_sameIn_self (r s : Report) (part : ReportPart) :
    (r.replaced s part).SameIn s part := by
  cases part <;> rfl

theorem replaced_sameIn_of_ne (r s : Report) {part other : ReportPart} (h : other ≠ part) :
    (r.replaced s part).SameIn r other := by
  cases other <;> exact if_neg h.symm

/-! ## Settled reports -/

/-- Every field of the issue of a long report is made of one part of the report, whatever the other
parts are. So a part may be replaced or taken away without a change in the fields of the others. The
issue has a position exactly if the location counts; the coordinates are then the integers that the
numbers of the range stand for, and the file is that of the location. Otherwise the position is not
known and there is no file.

Of any other report only mark and text count. -/
theorem settle_by_parts (r : Report) :
    (r.settle.severity = .warning ↔ ∃ mark, r.isError? = some mark ∧ mark.isTruthy = false) ∧
    (r.IsLong →
      (r.settle.text = fieldText r.message? ∧ r.settle.subcategory = fieldText r.subcategory? ∧
        r.settle.code = formatCode (r.number?.getD .null)) ∧
      (∀ s : Report, s.IsLong → ∀ part, r.SameIn s part → r.settle.SameIn s.settle part) ∧
      (∀ (s : Report) (part : ReportPart), (r.replaced s part).SameIn s part ∧
        ∀ other, other ≠ part → (r.replaced s part).settle.SameIn r.settle other) ∧
      (r.settle.position ≠ Position.unknown ↔ HasPlace r.location?) ∧
      (∀ l, r.location? = some (.whole l) → l.HasPlace →
        (∀ f : RangeField, f.ofPosition r.settle.position = l.numberAt f) ∧
          r.settle.file = fieldText l.file) ∧
      (¬ HasPlace r.location? → r.settle.position = Position.unknown ∧ r.settle.file = "")) ∧
    (¬ r.IsLong →
      r.settle =
        { text := fieldText r.text?, severity := r.severity, position := Position.unknown }) := by
  refine ⟨severity_settle_eq_warning_iff r, fun hr => ⟨?_, ?_, ?_, ?_, ?_, ?_⟩, settle_not_long⟩
  · rw [settle_long hr]
    refine ⟨rfl, rfl, ?_⟩
    cases r.number? <;> rfl
  · intro s hs part
    exact settle_sameIn hr hs
  · intro s part
    refine ⟨r.replaced_sameIn_self s part, fun other hother => ?_⟩
    exact settle_sameIn (r.isLong_replaced s part) hr (r.replaced_sameIn_of_ne s hother)
  · rw [settle_long hr]
    exact settleLocation_ne_unknown_iff r.location?
  · intro l hl hplace
    have hlocation : settleLocation r.location? = (l.position, fieldText l.file) := by
      rw [hl]
      exact l.settle_of_hasPlace hplace
    rw [settle_long hr, hlocation]
    exact ⟨l.ofPosition_position, rfl⟩
  · intro hplace
    rw [settle_long hr, settleLocation_of_not_hasPlace hplace]
    exact ⟨rfl, rfl⟩

/-- A report in which every part is there and none is as it should be. -/
def misshapen : Report :=
  ofParts (some (.text "")) (some (.list [.null])) (some .null) (some (.real (.infinite true)))
    (some (.whole
      { file := some (.bool true)
        range := some (.whole
          { startLine := some (.text " ٣\n")
            startColumn := some (.real .nan)
            endColumn := some (.bool true) })
        isEmpty := some (.list []) }))

theorem settle_by_parts_misshapen :
    misshapen.IsLong ∧ HasPlace misshapen.location? ∧
      misshapen.settle.text = fieldText (some (.list [.null])) ∧
      misshapen.settle.severity = .warning ∧
      misshapen.settle.position ≠ Position.unknown ∧
      RangeField.startLine.ofPosition misshapen.settle.position = 3 ∧
      RangeField.startColumn.ofPosition misshapen.settle.position = 0 ∧
      misshapen.settle.file = "True" ∧
      (misshapen.replaced (.long none none) .location).settle.SameIn misshapen.settle .message := by
  obtain ⟨hwarning, hlong, -⟩ := settle_by_parts misshapen
  have hplace : HasPlace misshapen.location? := by
    refine ⟨_, rfl, ?_, .startLine, .text " ٣\n", 3, rfl, by decide, by decide⟩
    rintro mark ⟨⟩
    rfl
  obtain ⟨⟨htext, -⟩, -, hreplaced, hposition, hlocation, -⟩ := hlong trivial
  obtain ⟨l, hl, hcounts⟩ := hplace
  have hfields := hlocation l hl hcounts
  cases hl
  exact ⟨trivial, ⟨_, rfl, hcounts⟩, htext, hwarning.mpr ⟨_, rfl, by decide⟩,
    hposition.mpr ⟨_, rfl, hcounts⟩, hfields.1 .startLine, hfields.1 .startColumn, hfields.2,
    (hreplaced (.long none none) .location).2 .message (by decide)⟩

/-! ## Locations with and without a mark -/

/-- A long report with a location. -/
def locatedAt (l : SourceLocation) (mark message : Option Value)
    (entry : Option (Part CatalogEntry)) : Report :=
  long mark (some (.whole { message := message, entry := entry, location := some (.whole l) }))

theorem settle_locatedAt_congr {l l' : SourceLocation} (h : l.settle = l'.settle)
    (mark message : Option Value) (entry : Option (Part CatalogEntry)) :
    (locatedAt l mark message entry).settle = (locatedAt l' mark message entry).settle := by
  have hlocation : settleLocation (locatedAt l mark message entry).location? =
      settleLocation (locatedAt l' mark message entry).location? := h
  have hlong : ∀ l, (locatedAt l mark message entry).IsLong := fun _ => trivial
  rw [settle_long (hlong l), settle_long (hlong l'), hlocation]
  rfl

/-- A location without a mark settles as it does when it is built by the book, with nothing missing
and a mark that tells whether its range equals the zero range. Where the mark says so, each of the
four numbers stands for zero. -/
theorem settle_locatedAt_typed (mark message : Option Value) (entry : Option (Part CatalogEntry))
    (file : Option Value) (range : Option (Part SourceRange)) :
    let l : SourceLocation := { file, range }
    (locatedAt l.typed mark message entry).settle = (locatedAt l mark message entry).settle ∧
    (locatedAt l.marked mark message entry).settle = (locatedAt l mark message entry).settle ∧
    (l.typed.isMarkedEmpty = true → ∀ f, ∃ v, l.typed.given? f = some v ∧ v.toInt? = some 0) := by
  intro l
  refine ⟨settle_locatedAt_congr (SourceLocation.settle_typed rfl) mark message entry,
    settle_locatedAt_congr (SourceLocation.settle_marked rfl) mark message entry, ?_⟩
  intro hmark f
  exact SourceLocation.exists_toInt?_of_hasZeroRange_filled hmark f

/-- A range of zeros that are not written as zero, one of them missing. -/
def zeroLike : SourceRange :=
  { startLine := some (.bool false), startColumn := some (.real (.finite true 0 (-1074))),
    endLine := some (.int 0) }

theorem settle_locatedAt_typed_zeroLike :
    let l : SourceLocation := { file := some (.text "a.fs"), range := some (.whole zeroLike) }
    l.typed.isMarkedEmpty = true ∧
      ∀ f, ∃ v, l.typed.given? f = some v ∧ v.toInt? = some 0 := by
  intro l
  have hmark : l.typed.isMarkedEmpty = true := by decide +kernel
  exact ⟨hmark, (settle_locatedAt_typed none none none (some (.text "a.fs"))
    (some (.whole zeroLike))).2.2 hmark⟩

end Report

end EngineHost
