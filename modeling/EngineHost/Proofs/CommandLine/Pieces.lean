import EngineHost.CommandLine
import EngineHost.Text.Lines

/-!
# Command lines in pieces

Where a command line is cut is decided by parity: a space divides the line if an even number of
quotes stands before it. `reading` says by this rule alone, without a scanner, which arguments a line
holds: cut, discard a last piece whose quote is open, delete the quotes, drop what is then empty.

Main facts: `arguments_eq_reading` (the scanner follows the rule), `arguments_append_separator` (the
two sides of a dividing space are read apart), `arguments_of_unclosed`.
-/

namespace EngineHost.CommandLine

open EngineHost.Text

/-- The character at a position is a space with an even number of quotes before it. -/
def Divides (text : List Char) (i : Nat) : Prop :=
  text[i]? = some separator ∧ (text.take i).count quote % 2 = 0

instance (text : List Char) (i : Nat) : Decidable (Divides text i) :=
  inferInstanceAs (Decidable (_ ∧ _))

/-- A line cut at every position that divides it. -/
def pieces (line : List Char) : List (List Char) :=
  (cut (fun x => decide (Divides line x.2)) line.zipIdx).map (·.map Prod.fst)

def withoutQuotes (piece : List Char) : List Char := piece.filter (· ≠ quote)

/-- The arguments in some pieces of a line, of which the last may have an open quote. -/
def readPieces (quoting : Bool) (ps : List (List Char)) : List (List Char) :=
  ((if quoting then ps.dropLast else ps).map withoutQuotes).filter (· ≠ [])

/-- Is a quote open at the end of the text? -/
def endsQuoting (text : List Char) : Bool := text.count quote % 2 = 1

def reading (line : List Char) : List (List Char) := readPieces (endsQuoting line) (pieces line)

/-! ## Cutting -/

/-- The pieces of the rest of a line, where `before` has been read. -/
def piecesAfter (before rest : List Char) : List (List Char) :=
  (cut (fun x => decide (Divides (before ++ rest) x.2)) (rest.zipIdx before.length)).map
    (·.map Prod.fst)

theorem piecesAfter_ne_nil (before rest : List Char) : piecesAfter before rest ≠ [] := by
  rw [piecesAfter, ne_eq, List.map_eq_nil_iff]
  exact cut_ne_nil _ _

theorem divides_length (before : List Char) (c : Char) (rest : List Char) :
    Divides (before ++ c :: rest) before.length ↔ c = separator ∧ endsQuoting before = false := by
  have hchar : (before ++ c :: rest)[before.length]? = some c := by simp
  have hbefore : (before ++ c :: rest).take before.length = before := List.take_left
  rw [Divides, hchar, hbefore, Option.some.injEq, endsQuoting, decide_eq_false_iff_not,
    Nat.mod_two_not_eq_one]

theorem piecesAfter_cons (before : List Char) (c : Char) (rest : List Char) :
    piecesAfter before (c :: rest) =
      if c = separator ∧ endsQuoting before = false then [] :: piecesAfter (before ++ [c]) rest
      else (piecesAfter (before ++ [c]) rest).modifyHead (c :: ·) := by
  have hline : before ++ c :: rest = before ++ [c] ++ rest := by simp
  have hlength : before.length + 1 = (before ++ [c]).length := by simp
  rw [piecesAfter, List.zipIdx_cons, cut_cons]
  by_cases hdivides : c = separator ∧ endsQuoting before = false
  · have hcut := (divides_length before c rest).mpr hdivides
    rw [if_pos (decide_eq_true hcut), if_pos hdivides, hline, hlength]
    rfl
  · have hcut := mt (divides_length before c rest).mp hdivides
    rw [if_neg (by rwa [decide_eq_true_eq]), if_neg hdivides, hline, hlength, piecesAfter]
    cases cut (fun x => decide (Divides (before ++ [c] ++ rest) x.2))
        (rest.zipIdx (before ++ [c]).length) with
    | nil => rfl
    | cons p ps => rfl

theorem modifyHead_nil_append (ps : List (List Char)) :
    ps.modifyHead (([] : List Char) ++ ·) = ps := by
  cases ps <;> rfl

/-! ## Reading pieces -/

theorem withoutQuotes_of_not_mem {s : List Char} (h : quote ∉ s) : withoutQuotes s = s := by
  rw [withoutQuotes, List.filter_eq_self]
  intro c hc
  rw [decide_eq_true_eq]
  rintro rfl
  exact h hc

-- Only what is left without quotes counts.
theorem readPieces_modifyHead_congr {f g : List Char → List Char}
    (h : ∀ p, withoutQuotes (f p) = withoutQuotes (g p)) (quoting : Bool)
    (ps : List (List Char)) :
    readPieces quoting (ps.modifyHead f) = readPieces quoting (ps.modifyHead g) := by
  have hmap : ∀ qs : List (List Char),
      (qs.modifyHead f).map withoutQuotes = (qs.modifyHead g).map withoutQuotes := by
    rintro (_ | ⟨q, qs⟩)
    · rfl
    · simp [h]
  have hdrop : ∀ f : List Char → List Char,
      (ps.modifyHead f).dropLast = ps.dropLast.modifyHead f := by
    intro f
    rcases ps with _ | ⟨p, _ | ⟨q, qs⟩⟩ <;> rfl
  cases quoting with
  | true => simp only [readPieces, if_true, hdrop, hmap]
  | false => simp only [readPieces, Bool.false_eq_true, if_false, hmap]

/-- A piece that is not the last has its quotes closed. -/
theorem readPieces_cons {s : List Char} (hs : quote ∉ s) (quoting : Bool)
    {ps : List (List Char)} (hps : ps ≠ []) :
    readPieces quoting (s :: ps) = flush s.reverse (readPieces quoting ps) := by
  have hdrop : (s :: ps).dropLast = s :: ps.dropLast := List.dropLast_cons_of_ne_nil hps
  have hkeep : (if quoting then (s :: ps).dropLast else s :: ps) =
      s :: if quoting then ps.dropLast else ps := by
    cases quoting <;> simp [hdrop]
  rw [readPieces, hkeep, List.map_cons, withoutQuotes_of_not_mem hs, flush]
  cases s with
  | nil => simp [readPieces]
  | cons c s => simp [readPieces]

/-! ## The scanner follows the rule -/

/-- Quotes that are open before a text and in it close each other. -/
theorem endsQuoting_append (a b : List Char) :
    endsQuoting (a ++ b) = (endsQuoting a ^^ endsQuoting b) := by
  simp only [endsQuoting, List.count_append]
  rcases Nat.mod_two_eq_zero_or_one (a.count quote) with ha | ha <;>
    rcases Nat.mod_two_eq_zero_or_one (b.count quote) with hb | hb <;>
    simp [Nat.add_mod, ha, hb]

theorem endsQuoting_append_quote (before : List Char) :
    endsQuoting (before ++ [quote]) = !endsQuoting before := by
  have hquote : endsQuoting [quote] = true := rfl
  rw [endsQuoting_append, hquote, Bool.xor_true]

theorem endsQuoting_append_of_ne (before : List Char) {c : Char} (hc : c ≠ quote) :
    endsQuoting (before ++ [c]) = endsQuoting before := by
  have hchar : endsQuoting [c] = false := by simp [endsQuoting, hc]
  rw [endsQuoting_append, hchar, Bool.xor_false]

-- By induction on the rest of the line. Quoting is the parity of what has been read, and the
-- argument under way is the first piece as far as it has been read, without its quotes.
theorem scan_eq_readPieces (before reversed rest : List Char) (hclean : quote ∉ reversed) :
    scan (endsQuoting before) reversed rest =
      readPieces (endsQuoting (before ++ rest))
        ((piecesAfter before rest).modifyHead (reversed.reverse ++ ·)) := by
  induction rest generalizing before reversed with
  | nil =>
    have hreverse : quote ∉ reversed.reverse := by rwa [List.mem_reverse]
    have hpieces : piecesAfter before [] = [[]] := rfl
    rw [scan, List.append_nil, hpieces, List.modifyHead_cons, List.append_nil]
    cases endsQuoting before with
    | true => rfl
    | false =>
      have hread : readPieces false [reversed.reverse] = [reversed.reverse].filter (· ≠ []) := by
        rw [readPieces, if_neg Bool.false_ne_true, List.map_singleton,
          withoutQuotes_of_not_mem hreverse]
      rw [if_neg Bool.false_ne_true, hread]
      cases reversed with
      | nil => rfl
      | cons c s => simp [flush]
  | cons c rest ih =>
    have hline : before ++ c :: rest = before ++ [c] ++ rest := by simp
    rw [scan, piecesAfter_cons, hline]
    by_cases hquote : c = quote
    · subst hquote
      have hspace : ¬ (quote = separator ∧ endsQuoting before = false) := by
        rintro ⟨h, -⟩
        exact absurd h (by decide)
      rw [if_pos rfl, if_neg hspace, List.modifyHead_modifyHead, ← endsQuoting_append_quote,
        ih _ _ hclean]
      apply readPieces_modifyHead_congr
      intro p
      simp [withoutQuotes]
    rw [if_neg hquote]
    have hsame := endsQuoting_append_of_ne before hquote
    by_cases hdivide : c = separator ∧ endsQuoting before = false
    · have hne := piecesAfter_ne_nil (before ++ [c]) rest
      have hfirst := ih (before ++ [c]) [] List.not_mem_nil
      rw [List.reverse_nil, modifyHead_nil_append, hsame, hdivide.2] at hfirst
      rw [if_pos (by simp [hdivide]), if_pos hdivide, hfirst, List.modifyHead_cons,
        List.append_nil, readPieces_cons _ _ hne, List.reverse_reverse]
      rwa [List.mem_reverse]
    · have hkeep : quote ∉ c :: reversed := by
        rw [List.mem_cons, not_or]
        exact ⟨Ne.symm hquote, hclean⟩
      have hscan : ¬ (decide (c = separator) && !endsQuoting before) = true := by
        rwa [Bool.and_eq_true, decide_eq_true_eq, Bool.not_eq_true']
      rw [if_neg hscan, if_neg hdivide, List.modifyHead_modifyHead, ← hsame, ih _ _ hkeep]
      apply readPieces_modifyHead_congr
      intro p
      simp

theorem arguments_eq_reading (line : List Char) : arguments line = reading line := by
  have hscan := scan_eq_readPieces [] [] line List.not_mem_nil
  rw [List.reverse_nil, modifyHead_nil_append] at hscan
  exact hscan

/-! ## What becomes of a line -/

theorem ne_nil_and_not_mem_of_mem_arguments {line argument : List Char}
    (h : argument ∈ arguments line) : argument ≠ [] ∧ quote ∉ argument := by
  rw [arguments_eq_reading, reading, readPieces, List.mem_filter, decide_eq_true_eq] at h
  obtain ⟨hmem, hne⟩ := h
  obtain ⟨piece, -, rfl⟩ := List.mem_map.mp hmem
  refine ⟨hne, ?_⟩
  intro hquote
  simp [withoutQuotes] at hquote

theorem flush_append (reversed : List Char) (a b : List (List Char)) :
    flush reversed (a ++ b) = flush reversed a ++ b := by
  unfold flush
  split <;> rfl

theorem scan_append_separator (before reversed a b : List Char)
    (h : endsQuoting (before ++ a) = false) :
    scan (endsQuoting before) reversed (a ++ separator :: b) =
      scan (endsQuoting before) reversed a ++ arguments b := by
  induction a generalizing before reversed with
  | nil =>
    rw [List.append_nil] at h
    rw [List.nil_append, h]
    exact flush_append reversed [] (arguments b)
  | cons c a ih =>
    rw [List.append_cons] at h
    rw [List.cons_append, scan, scan]
    by_cases hquote : c = quote
    · subst hquote
      rw [if_pos rfl, if_pos rfl, ← endsQuoting_append_quote]
      exact ih _ _ h
    · have hsame := endsQuoting_append_of_ne before hquote
      rw [if_neg hquote, if_neg hquote]
      split
      next hdivide =>
        rw [Bool.and_eq_true, Bool.not_eq_true'] at hdivide
        have hrest := ih (before ++ [c]) [] h
        rw [hsame, hdivide.2] at hrest
        rw [hrest, flush_append]
      next =>
        rw [← hsame]
        exact ih _ _ h

/-- What stands on the two sides of a space that divides a line is read apart. -/
theorem arguments_append_separator {a : List Char} (h : endsQuoting a = false) (b : List Char) :
    arguments (a ++ separator :: b) = arguments a ++ arguments b :=
  scan_append_separator [] [] a b h

/-- The line is a single piece, and its quote is open. -/
def Unclosed (line : List Char) : Prop :=
  endsQuoting line = true ∧ ∀ i, ¬ Divides line i

theorem arguments_of_unclosed {line : List Char} (h : Unclosed line) : arguments line = [] := by
  have hcut : cut (fun x => decide (Divides line x.2)) line.zipIdx = [line.zipIdx] :=
    cut_eq_singleton fun x _ => decide_eq_false (h.2 x.2)
  rw [arguments_eq_reading, reading, pieces, hcut, h.1]
  rfl

theorem exists_of_divides {line : List Char} {i : Nat} (h : Divides line i) :
    ∃ before after, line = before ++ separator :: after ∧ endsQuoting before = false := by
  obtain ⟨hchar, hcount⟩ := h
  obtain ⟨hi, hget⟩ := List.getElem?_eq_some_iff.mp hchar
  refine ⟨line.take i, line.drop (i + 1), ?_, ?_⟩
  · rw [← hget, List.getElem_cons_drop, List.take_append_drop]
  · rw [endsQuoting, decide_eq_false_iff_not, hcount]
    exact Nat.zero_ne_one

/-- The piece in which a quote is left open is the last one. -/
theorem unclosed_or_exists (line : List Char) (h : endsQuoting line = true) :
    Unclosed line ∨ ∃ before last, line = before ++ separator :: last ∧
      endsQuoting before = false ∧ Unclosed last := by
  by_cases hpiece : ∀ i, ¬ Divides line i
  · exact .inl ⟨h, hpiece⟩
  right
  obtain ⟨i, hi⟩ := Classical.not_forall.mp hpiece
  obtain ⟨before, after, hline, hbefore⟩ := exists_of_divides (Classical.not_not.mp hi)
  have hspace : endsQuoting [separator] = false := rfl
  have hafter : endsQuoting after = true := by
    rw [hline, List.append_cons, endsQuoting_append, endsQuoting_append, hbefore, hspace] at h
    simpa using h
  -- What follows the space is shorter, and its quote is open as well.
  obtain hlast | ⟨before', last, hline', hbefore', hlast⟩ := unclosed_or_exists after hafter
  · exact ⟨before, after, hline, hbefore, hlast⟩
  · refine ⟨before ++ separator :: before', last, by simp [hline, hline'], ?_, hlast⟩
    rw [List.append_cons, endsQuoting_append, endsQuoting_append, hbefore, hspace, hbefore']
    rfl
termination_by line.length
decreasing_by
  rw [hline, List.length_append, List.length_cons]
  omega

/-- What a line keeps: all but its quotes and the spaces that divide it. -/
def kept (line : List Char) : List Char :=
  withoutQuotes ((line.zipIdx.filter fun x => !decide (Divides line x.2)).map Prod.fst)

theorem flatten_readPieces (quoting : Bool) (ps : List (List Char)) :
    (readPieces quoting ps).flatten =
      withoutQuotes (if quoting then ps.dropLast else ps).flatten := by
  rw [readPieces, List.flatten_filter_ne_nil, withoutQuotes, List.filter_flatten]
  rfl

theorem flatten_pieces (line : List Char) :
    (pieces line).flatten =
      (line.zipIdx.filter fun x => !decide (Divides line x.2)).map Prod.fst := by
  rw [pieces, ← List.map_flatten, flatten_cut]

theorem flatten_arguments {line : List Char} (h : endsQuoting line = false) :
    (arguments line).flatten = kept line := by
  rw [arguments_eq_reading, reading, flatten_readPieces, h, if_neg Bool.false_ne_true,
    flatten_pieces, kept]

theorem flatten_arguments_sublist (line : List Char) :
    (arguments line).flatten.Sublist line := by
  have hpieces : (pieces line).flatten.Sublist line := by
    have hfilter := (List.filter_sublist (p := fun x => !decide (Divides line x.2))
      (l := line.zipIdx)).map Prod.fst
    rw [flatten_pieces]
    rwa [List.zipIdx_map_fst] at hfilter
  have hdrop : (pieces line).dropLast.flatten.Sublist (pieces line).flatten := by
    have hne : pieces line ≠ [] := piecesAfter_ne_nil [] line
    have hlast := congrArg List.flatten (List.dropLast_concat_getLast hne)
    rw [List.flatten_append] at hlast
    rw [← hlast]
    exact List.sublist_append_left _ _
  rw [arguments_eq_reading, reading, flatten_readPieces]
  refine List.filter_sublist.trans ?_
  split
  · exact hdrop.trans hpieces
  · exact hpieces

/-- A line is read by the parity of its quotes. No argument is empty or holds a quote. The arguments
keep the order of the line, and if every quote is closed they keep all of it but the quotes and the
spaces that divide it. A quote that is left open costs the piece it stands in, from its beginning,
and nothing else. -/
theorem split_eq_reading (line : String) :
    split line = (reading line.toList).map String.ofList ∧
    (∀ argument ∈ split line, argument ≠ "" ∧ quote ∉ argument.toList) ∧
    ((split line).flatMap String.toList).Sublist line.toList ∧
    (endsQuoting line.toList = false →
      (split line).flatMap String.toList = kept line.toList) ∧
    (endsQuoting line.toList = true →
      Unclosed line.toList ∧ split line = [] ∨
      ∃ before last, line.toList = before ++ separator :: last ∧ endsQuoting before = false ∧
        Unclosed last ∧ split line = split (String.ofList before)) := by
  have hflat : (split line).flatMap String.toList = (arguments line.toList).flatten := by
    rw [split, List.flatMap_map]
    simp [List.flatMap_id']
  refine ⟨?_, ?_, ?_, ?_, ?_⟩
  · rw [split, arguments_eq_reading]
  · intro argument hargument
    obtain ⟨chars, hchars, rfl⟩ := List.mem_map.mp hargument
    obtain ⟨hne, hquote⟩ := ne_nil_and_not_mem_of_mem_arguments hchars
    exact ⟨by simpa using hne, by simpa using hquote⟩
  · rw [hflat]
    exact flatten_arguments_sublist line.toList
  · intro hclosed
    rw [hflat, flatten_arguments hclosed]
  · intro hopen
    obtain hline | ⟨before, last, hline, hbefore, hlast⟩ := unclosed_or_exists line.toList hopen
    · exact .inl ⟨hline, by rw [split, arguments_of_unclosed hline]; rfl⟩
    · refine .inr ⟨before, last, hline, hbefore, hlast, ?_⟩
      rw [split, hline, arguments_append_separator hbefore, arguments_of_unclosed hlast,
        List.append_nil, split, String.toList_ofList]

/-- An empty pair of quotes, a quoted space inside an argument, and an open quote. -/
theorem split_eq_reading_open :
    endsQuoting "a \"\" /out:\"my lib\".dll  b\"c d".toList = true ∧
    "a" ∈ split "a \"\" /out:\"my lib\".dll  b\"c d" ∧
    (reading "a \"\" /out:\"my lib\".dll  b\"c d".toList).map String.ofList =
      ["a", "/out:my lib.dll"] ∧
    split "a \"\" /out:\"my lib\".dll  b\"c d" = ["a", "/out:my lib.dll"] := by
  have hreading : (reading "a \"\" /out:\"my lib\".dll  b\"c d".toList).map String.ofList =
      ["a", "/out:my lib.dll"] := by decide +kernel
  obtain ⟨hsplit, -⟩ := split_eq_reading "a \"\" /out:\"my lib\".dll  b\"c d"
  rw [hreading] at hsplit
  exact ⟨by decide +kernel, by rw [hsplit]; decide, hreading, hsplit⟩

end EngineHost.CommandLine
