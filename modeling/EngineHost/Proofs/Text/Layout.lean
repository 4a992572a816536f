import EngineHost.Proofs.Text.Lines

/-!
# Texts laid out in lines

A text is laid out by its lines and the runs of line breaks around them: one before the first line
and one after each, and only the first and the last of the runs may be empty. Reading a text gives
back the lines it is laid out with, and every text is laid out with the lines that are read. How long
the runs are and which breaks they are made of is not read.

Everything follows from one equation, `splitLines_append`: two texts that meet at a line break may
be read apart.

Main facts: `splitLines_append`, `Layout.splitLines_text`, `Layout.exists_text_eq`,
`splitLines_intercalate`, `splitLines_reads_layouts`.
-/

namespace EngineHost.Text

variable {a b gap sep : String}

/-! ## Reading apart -/

/-- The last character is a line break. -/
def EndsWithBreak (text : String) : Prop := ∃ c ∈ text.toList.getLast?, c = '\r' ∨ c = '\n'

/-- The first character is a line break. -/
def StartsWithBreak (text : String) : Prop := ∃ c ∈ text.toList.head?, c = '\r' ∨ c = '\n'

theorem splitLines_append (h : EndsWithBreak a ∨ StartsWithBreak b) :
    splitLines (a ++ b) = splitLines a ++ splitLines b := by
  have hlines : lines (a.toList ++ b.toList) = lines a.toList ++ lines b.toList := by
    rcases h with ⟨c, hlast, hc⟩ | ⟨c, hhead, hc⟩
    · have hbreak := isBreak_iff.mpr hc
      obtain ⟨s, hs⟩ := List.getLast?_eq_some_iff.mp hlast
      rw [hs, List.append_assoc, List.singleton_append, lines_append_break s hbreak,
        lines_append_break s hbreak, lines_nil, List.append_nil]
    · have hbreak := isBreak_iff.mpr hc
      obtain ⟨t, ht⟩ := List.head?_eq_some_iff.mp hhead
      rw [ht, lines_append_break _ hbreak, lines_break_append hbreak]
  rw [splitLines, String.toList_append, hlines, List.map_append, splitLines, splitLines]

/-- Reading a text loses its line breaks and nothing else. -/
theorem join_splitLines (text : String) :
    String.join (splitLines text) =
      String.ofList (text.toList.filter fun c => c ≠ '\r' ∧ c ≠ '\n') := by
  have hkept : (fun c => !isBreak c) = fun c => decide (c ≠ '\r' ∧ c ≠ '\n') := by
    funext c
    simp [isBreak]
  rw [← String.toList_inj, String.toList_join, String.toList_ofList, ← hkept, ← flatten_cut,
    ← List.flatten_filter_not_isEmpty, splitLines, List.flatMap_map]
  simp only [String.toList_ofList, List.flatMap_id']
  rfl

/-! ## Runs of line breaks -/

/-- A run of line breaks of any kinds. -/
def IsGap (gap : String) : Prop := ∀ c ∈ gap.toList, c = '\r' ∨ c = '\n'

namespace IsGap

theorem endsWithBreak_append (hgap : IsGap gap) (hne : gap ≠ "") (a : String) :
    EndsWithBreak (a ++ gap) := by
  have hchars : gap.toList ≠ [] := mt String.toList_eq_nil_iff.mp hne
  refine ⟨gap.toList.getLast hchars, ?_, hgap _ (List.getLast_mem _)⟩
  rw [String.toList_append, List.getLast?_append, List.getLast?_eq_some_getLast hchars]
  rfl

theorem startsWithBreak (hgap : IsGap gap) (hne : gap ≠ "") : StartsWithBreak gap := by
  have hchars : gap.toList ≠ [] := mt String.toList_eq_nil_iff.mp hne
  exact ⟨gap.toList.head hchars, List.head?_eq_some_head _, hgap _ (List.head_mem _)⟩

theorem lines_eq_nil_of_forall {s : List Char} (h : ∀ c ∈ s, c = '\r' ∨ c = '\n') : lines s = [] := by
  induction s with
  | nil => rfl
  | cons c rest ih =>
    rw [lines_break_append (isBreak_iff.mpr (h c List.mem_cons_self))]
    exact ih fun d hd => h d (List.mem_cons_of_mem c hd)

theorem splitLines_eq_nil (hgap : IsGap gap) : splitLines gap = [] := by
  rw [splitLines, lines_eq_nil_of_forall hgap, List.map_nil]

theorem splitLines_append_gap (hgap : IsGap gap) (a : String) :
    splitLines (a ++ gap) = splitLines a := by
  by_cases hne : gap = ""
  · rw [hne, String.append_empty]
  · rw [splitLines_append (.inr (hgap.startsWithBreak hne)), hgap.splitLines_eq_nil,
      List.append_nil]

theorem splitLines_gap_append (hgap : IsGap gap) (a : String) :
    splitLines (gap ++ a) = splitLines a := by
  by_cases hne : gap = ""
  · rw [hne, String.empty_append]
  · have hends := hgap.endsWithBreak_append hne ""
    rw [String.empty_append] at hends
    rw [splitLines_append (.inl hends), hgap.splitLines_eq_nil, List.nil_append]

end IsGap

/-- The usual line ends. -/
def lineEnds : List String := ["\r\n", "\r", "\n"]

theorem isGap_of_mem_lineEnds (h : sep ∈ lineEnds) : IsGap sep := by
  have hchars : ∀ chars ∈ [['\r', '\n'], ['\r'], ['\n']], ∀ c ∈ chars, c = '\r' ∨ c = '\n' := by
    simp
  exact hchars sep.toList (List.mem_map_of_mem h)

theorem ne_empty_of_mem_lineEnds (h : sep ∈ lineEnds) : sep ≠ "" := by
  rintro rfl
  simp [lineEnds] at h

/-- Whatever pieces are joined by a run of line breaks are read apart. -/
theorem splitLines_intercalate (hgap : IsGap sep) (hne : sep ≠ "") (pieces : List String) :
    splitLines (sep.intercalate pieces) = pieces.flatMap splitLines := by
  induction pieces with
  | nil => rfl
  | cons piece rest ih =>
    cases rest with
    | nil => rw [String.intercalate_singleton, List.flatMap_singleton]
    | cons next rest =>
      have hends := hgap.endsWithBreak_append hne piece
      rw [String.intercalate_cons_cons, List.flatMap_cons, splitLines_append (.inl hends),
        hgap.splitLines_append_gap, ih]

/-! ## Layouts -/

/-- A line and the run of line breaks after it. -/
structure BrokenLine where
  line : String
  gap : String
  line_ne_empty : line ≠ ""
  not_hasBreak : ¬ HasBreak line
  isGap : IsGap gap

/-- A run of line breaks and lines with the runs after them. Two lines have a break between them. -/
structure Layout where
  lead : String
  body : List BrokenLine
  isGap_lead : IsGap lead
  gap_ne_empty : ∀ gap ∈ (body.map BrokenLine.gap).dropLast, gap ≠ ""

def BrokenLine.text (p : BrokenLine) : String := p.line ++ p.gap

theorem BrokenLine.splitLines_text (p : BrokenLine) : splitLines p.text = [p.line] := by
  rw [text, p.isGap.splitLines_append_gap, splitLines_eq_singleton p.line_ne_empty p.not_hasBreak]

namespace Layout

/-- The text that is laid out. -/
def text (l : Layout) : String := l.lead ++ String.join (l.body.map BrokenLine.text)

/-- The lines that the text is laid out with. -/
def lines (l : Layout) : List String := l.body.map BrokenLine.line

theorem splitLines_join {body : List BrokenLine}
    (h : ∀ gap ∈ (body.map BrokenLine.gap).dropLast, gap ≠ "") :
    splitLines (String.join (body.map BrokenLine.text)) = body.map BrokenLine.line := by
  induction body with
  | nil => rfl
  | cons p rest ih =>
    rw [List.map_cons, String.join_cons, List.map_cons]
    cases rest with
    | nil =>
      rw [List.map_nil, String.join_nil, String.append_empty, p.splitLines_text, List.map_nil]
    | cons q rest =>
      rw [List.map_cons, List.map_cons, List.dropLast_cons_cons, List.forall_mem_cons] at h
      have hends : EndsWithBreak p.text := p.isGap.endsWithBreak_append h.1 p.line
      rw [splitLines_append (.inl hends), p.splitLines_text, ih h.2, List.singleton_append]

theorem splitLines_text (l : Layout) : splitLines l.text = l.lines := by
  rw [text, l.isGap_lead.splitLines_gap_append, splitLines_join l.gap_ne_empty, lines]

/-! ## Every text is laid out

A character is put in front of what is laid out: a break goes to the first run, and another
character to the line that follows at once, or it begins a line where a run or nothing follows. -/

variable {c : Char}

theorem toList_text (l : Layout) :
    l.text.toList = l.lead.toList ++ l.body.flatMap fun p => p.line.toList ++ p.gap.toList := by
  rw [text, String.toList_append, String.toList_join, List.flatMap_map]
  simp only [BrokenLine.text, String.toList_append]

def consBreak (c : Char) (hc : isBreak c = true) (l : Layout) : Layout where
  lead := String.singleton c ++ l.lead
  body := l.body
  isGap_lead := by
    intro d hd
    rw [String.toList_append, String.toList_singleton, List.singleton_append, List.mem_cons] at hd
    rcases hd with rfl | hd
    · exact isBreak_iff.mp hc
    · exact l.isGap_lead d hd
  gap_ne_empty := l.gap_ne_empty

def beginLine (c : Char) (hc : isBreak c = false) (l : Layout) (h : l.lead ≠ "" ∨ l.body = []) :
    Layout where
  lead := ""
  body := {
    line := String.singleton c
    gap := l.lead
    line_ne_empty := by simp [← String.toList_inj]
    not_hasBreak := by simpa [not_hasBreak_iff] using hc
    isGap := l.isGap_lead } :: l.body
  isGap_lead := by simp [IsGap]
  gap_ne_empty := by
    cases hbody : l.body with
    | nil => simp
    | cons p rest =>
      have hlead : l.lead ≠ "" := h.resolve_right (by simp [hbody])
      have hgaps := l.gap_ne_empty
      rw [hbody] at hgaps
      rw [List.map_cons, List.map_cons, List.dropLast_cons_cons, List.forall_mem_cons]
      exact ⟨hlead, hgaps⟩

def lengthenLine (c : Char) (hc : isBreak c = false) (l : Layout) {p : BrokenLine}
    {rest : List BrokenLine} (h : l.body = p :: rest) : Layout where
  lead := l.lead
  body := {
    line := String.singleton c ++ p.line
    gap := p.gap
    line_ne_empty := by simp [← String.toList_inj]
    not_hasBreak := by
      have hline := not_hasBreak_iff.mp p.not_hasBreak
      rw [not_hasBreak_iff, String.toList_append, String.toList_singleton, List.singleton_append,
        List.forall_mem_cons]
      exact ⟨hc, hline⟩
    isGap := p.isGap } :: rest
  isGap_lead := l.isGap_lead
  gap_ne_empty := by
    have hgaps := l.gap_ne_empty
    rwa [h] at hgaps

theorem exists_toList_text_eq (s : List Char) : ∃ l : Layout, l.text.toList = s := by
  induction s with
  | nil => exact ⟨⟨"", [], by simp [IsGap], by simp⟩, rfl⟩
  | cons c s ih =>
    obtain ⟨l, rfl⟩ := ih
    cases hc : isBreak c with
    | true => exact ⟨l.consBreak c hc, by simp [toList_text, consBreak]⟩
    | false =>
      by_cases h : l.lead ≠ "" ∨ l.body = []
      · exact ⟨l.beginLine c hc h, by simp [toList_text, beginLine]⟩
      · rw [not_or, not_not] at h
        obtain ⟨p, rest, hbody⟩ := List.exists_cons_of_ne_nil h.2
        exact ⟨l.lengthenLine c hc hbody, by simp [toList_text, lengthenLine, hbody, h.1]⟩

theorem exists_text_eq (text : String) :
    ∃ l : Layout, l.text = text ∧ l.lines = splitLines text := by
  obtain ⟨l, hl⟩ := exists_toList_text_eq text.toList
  obtain rfl := String.toList_inj.mp hl
  exact ⟨l, rfl, l.splitLines_text.symm⟩

end Layout

/-- Reading a text that is laid out in lines gives back these lines, and every text is laid out in
the lines that are read. They are not empty and hold no line break, and together they are the text
without its carriage returns and line feeds. Texts of which one has a break where they meet are read
apart, and pieces that are joined by any of the three usual line ends are. -/
theorem splitLines_reads_layouts :
    (∀ l : Layout, splitLines l.text = l.lines) ∧
    (∀ text, ∃ l : Layout, l.text = text ∧ l.lines = splitLines text) ∧
    (∀ text, ∀ line ∈ splitLines text, line ≠ "" ∧ ¬ HasBreak line) ∧
    (∀ text, String.join (splitLines text) =
      String.ofList (text.toList.filter fun c => c ≠ '\r' ∧ c ≠ '\n')) ∧
    (∀ a b, EndsWithBreak a ∨ StartsWithBreak b →
      splitLines (a ++ b) = splitLines a ++ splitLines b) ∧
    ∀ sep ∈ lineEnds, ∀ pieces : List String,
      splitLines (sep.intercalate pieces) = pieces.flatMap splitLines := by
  refine ⟨Layout.splitLines_text, Layout.exists_text_eq, ?_, join_splitLines,
    fun _ _ => splitLines_append, ?_⟩
  · intro text line hline
    exact ⟨ne_empty_of_mem_splitLines hline, not_hasBreak_of_mem_splitLines hline⟩
  · intro sep hsep pieces
    exact splitLines_intercalate (isGap_of_mem_lineEnds hsep) (ne_empty_of_mem_lineEnds hsep) pieces

/-- Runs of any kinds count once, and a line separator is no line break. -/
example : splitLines "\n\ra\u2028b\r\n\nc" = ["a\u2028b", "c"] := by decide

end EngineHost.Text
