/-!
# Lines

A text is cut at every carriage return and every line feed, and the empty pieces are dropped, so a
run of breaks of any kind separates two lines once. No other character breaks a line.

Main facts: `cut_append_of_sep` (a separator splits the cutting in two), `lines_append_break` and
`lines_break_append` (a text may be cut at a break and its halves read apart).
-/

namespace EngineHost.Text

variable {α : Type}

/-- Cut a list at every element that `isSep` accepts; the pieces keep everything else. -/
def cut (isSep : α → Bool) : List α → List (List α)
  | [] => [[]]
  | c :: rest =>
    if isSep c then [] :: cut isSep rest
    else
      match cut isSep rest with
      | [] => [[c]]
      | piece :: pieces => (c :: piece) :: pieces

theorem cut_ne_nil (isSep : α → Bool) (s : List α) : cut isSep s ≠ [] := by
  cases s with
  | nil => simp [cut]
  | cons c rest =>
    unfold cut
    split
    · simp
    · split <;> simp

theorem cut_cons (isSep : α → Bool) (c : α) (rest : List α) :
    cut isSep (c :: rest) =
      if isSep c then [] :: cut isSep rest else (cut isSep rest).modifyHead (c :: ·) := by
  rw [cut]
  split
  · rfl
  · split
    next h => exact absurd h (cut_ne_nil isSep rest)
    next h => rw [h, List.modifyHead_cons]

/-- A separator ends the piece before it and begins the piece after it. -/
theorem cut_append_of_sep (isSep : α → Bool) (a : List α) {c : α} (hc : isSep c = true)
    (b : List α) : cut isSep (a ++ c :: b) = cut isSep a ++ cut isSep b := by
  induction a with
  | nil => simp [cut, hc]
  | cons x a ih =>
    cases hx : isSep x with
    | true => simp [cut, hx, ih]
    | false =>
      have hne := cut_ne_nil isSep a
      simp only [List.cons_append, cut, hx, ih]
      cases hcut : cut isSep a with
      | nil => exact absurd hcut hne
      | cons p ps => simp

/-- Only separators are lost. -/
theorem flatten_cut (isSep : α → Bool) (s : List α) :
    (cut isSep s).flatten = s.filter (!isSep ·) := by
  induction s with
  | nil => rfl
  | cons c rest ih =>
    rw [cut_cons]
    cases hc : isSep c with
    | true => simp [hc, ih]
    | false =>
      obtain ⟨p, ps, hcut⟩ := List.exists_cons_of_ne_nil (cut_ne_nil isSep rest)
      rw [hcut] at ih
      simp [hc, hcut, ← ih]

theorem cut_eq_singleton {isSep : α → Bool} {s : List α} (h : ∀ c ∈ s, isSep c = false) :
    cut isSep s = [s] := by
  induction s with
  | nil => rfl
  | cons c rest ih =>
    have hrest := ih fun d hd => h d (List.mem_cons_of_mem c hd)
    rw [cut_cons, h c List.mem_cons_self, hrest]
    rfl

def isBreak (c : Char) : Bool := c = '\r' || c = '\n'

/-- The non-empty stretches between line breaks, in order. -/
def lines (s : List Char) : List (List Char) :=
  (cut isBreak s).filter (fun piece => !piece.isEmpty)

theorem lines_nil : lines [] = [] := rfl

theorem lines_append_break (a : List Char) {c : Char} (hc : isBreak c = true) (b : List Char) :
    lines (a ++ c :: b) = lines a ++ lines b := by
  simp [lines, cut_append_of_sep isBreak a hc b]

theorem lines_break_append {c : Char} (hc : isBreak c = true) (b : List Char) :
    lines (c :: b) = lines b := by
  simpa [lines_nil] using lines_append_break [] hc b

/-- The lines of a text. -/
def splitLines (text : String) : List String :=
  (lines text.toList).map String.ofList

/-- Drop the line breaks at the end of a text. -/
def dropFinalBreaks (s : List Char) : List Char :=
  (s.reverse.dropWhile isBreak).reverse

/-- Write one space for every line break. -/
def flatten (s : List Char) : List Char :=
  s.map fun c => if isBreak c then ' ' else c

end EngineHost.Text
