import EngineHost.Proofs.CommandLine.Pieces

/-!
# Writing command lines

There are many ways to write the same arguments on a line. An argument is written in segments, bare
or between quotes, in any mixture; between two arguments stand spaces, at least one, and spaces may
stand before the first and after the last.

Main facts: `arguments_of_writes` (a line holds the arguments written on it) and `writes_join` (to
put every argument between quotes is one way to write them).
-/

namespace EngineHost.CommandLine

/-- A stretch of an argument as it is written. -/
inductive Segment where
  | bare (text : List Char)
  | quoted (text : List Char)
deriving DecidableEq, Repr

namespace Segment

def text : Segment → List Char
  | bare s => s
  | quoted s => s

def written : Segment → List Char
  | bare s => s
  | quoted s => wrap s

/-- Spaces stand between quotes only. -/
def KeepsSpaces : Segment → Prop
  | bare s => separator ∉ s
  | quoted _ => True

instance : DecidablePred KeepsSpaces
  | bare s => inferInstanceAs (Decidable (separator ∉ s))
  | quoted _ => inferInstanceAs (Decidable True)

end Segment

/-- The argument that the segments make up. -/
def spelled (segments : List Segment) : List Char := segments.flatMap Segment.text

/-- The segments as they are written, one after the other. -/
def spelling (segments : List Segment) : List Char := segments.flatMap Segment.written

/-- The arguments are written on the line. -/
inductive Writes : List (List Char) → List Char → Prop
  | nil : Writes [] []
  | space {args : List (List Char)} {line : List Char} (h : Writes args line) :
    Writes args (separator :: line)
  | last {segments : List Segment} (hsegments : ∀ s ∈ segments, s.KeepsSpaces) :
    Writes [spelled segments] (spelling segments)
  /-- A space ends an argument; more may follow it. -/
  | next {segments : List Segment} {args : List (List Char)} {line : List Char}
    (hsegments : ∀ s ∈ segments, s.KeepsSpaces) (h : Writes args line) :
    Writes (spelled segments :: args) (spelling segments ++ separator :: line)

/-! ## Reading what is written -/

theorem scan_bare {s : List Char} (hquote : quote ∉ s) (hspace : separator ∉ s)
    (reversed rest : List Char) :
    scan false reversed (s ++ rest) = scan false (s.reverse ++ reversed) rest := by
  induction s generalizing reversed with
  | nil => rfl
  | cons c s ih =>
    rw [List.mem_cons, not_or] at hquote hspace
    have hdivide : ¬ (decide (c = separator) && !false) = true := by
      simpa using Ne.symm hspace.1
    rw [List.cons_append, scan, if_neg (Ne.symm hquote.1), if_neg hdivide,
      ih hquote.2 hspace.2]
    simp

theorem scan_quoted {s : List Char} (hquote : quote ∉ s) (reversed rest : List Char) :
    scan true reversed (s ++ rest) = scan true (s.reverse ++ reversed) rest := by
  induction s generalizing reversed with
  | nil => rfl
  | cons c s ih =>
    rw [List.mem_cons, not_or] at hquote
    have hdivide : ¬ (decide (c = separator) && !true) = true := by simp
    rw [List.cons_append, scan, if_neg (Ne.symm hquote.1), if_neg hdivide, ih hquote.2]
    simp

theorem Segment.scan_written {s : Segment} (hspaces : s.KeepsSpaces) (hquote : quote ∉ s.text)
    (reversed rest : List Char) :
    scan false reversed (s.written ++ rest) = scan false (s.text.reverse ++ reversed) rest := by
  cases s with
  | bare text => exact scan_bare hquote hspaces reversed rest
  | quoted text =>
    have hwritten : (quoted text).written ++ rest = quote :: (text ++ quote :: rest) := by
      simp [written, wrap]
    change quote ∉ text at hquote
    have hopen := scan_quoted hquote reversed (quote :: rest)
    rw [hwritten, scan, if_pos rfl, Bool.not_false, hopen, scan, if_pos rfl]
    rfl

/-- After the last segment no quote is open, and the argument under way is the one spelled. -/
theorem scan_spelling {segments : List Segment} (hspaces : ∀ s ∈ segments, s.KeepsSpaces)
    (hquote : quote ∉ spelled segments) (reversed rest : List Char) :
    scan false reversed (spelling segments ++ rest) =
      scan false ((spelled segments).reverse ++ reversed) rest := by
  induction segments generalizing reversed with
  | nil => rfl
  | cons s segments ih =>
    rw [spelled, List.flatMap_cons, List.mem_append, not_or] at hquote
    rw [spelling, List.flatMap_cons, List.append_assoc,
      Segment.scan_written (hspaces s List.mem_cons_self) hquote.1]
    have hrest := ih (fun t ht => hspaces t (List.mem_cons_of_mem s ht)) hquote.2
      (s.text.reverse ++ reversed)
    rw [spelling] at hrest
    rw [hrest]
    simp [spelled]

theorem flush_reverse {argument : List Char} (h : argument ≠ []) (rest : List (List Char)) :
    flush (argument.reverse ++ []) rest = argument :: rest := by
  simp [flush, h]

theorem arguments_of_writes {args : List (List Char)} {line : List Char} (h : Writes args line)
    (hargs : ∀ argument ∈ args, argument ≠ [] ∧ quote ∉ argument) : arguments line = args := by
  induction h with
  | nil => rfl
  | space _ ih => exact ih hargs
  | @last segments hsegments =>
    obtain ⟨hne, hquote⟩ := hargs _ List.mem_cons_self
    have hscan := scan_spelling hsegments hquote [] []
    rw [List.append_nil, scan, if_neg Bool.false_ne_true, flush_reverse hne] at hscan
    exact hscan
  | @next segments args line hsegments _ ih =>
    obtain ⟨hne, hquote⟩ := hargs _ List.mem_cons_self
    have hrest := ih fun argument hmem => hargs argument (List.mem_cons_of_mem _ hmem)
    have hspace : ∀ reversed : List Char,
        scan false reversed (separator :: line) = flush reversed (scan false [] line) :=
      fun _ => rfl
    rw [arguments, scan_spelling hsegments hquote, hspace, flush_reverse hne]
    rw [arguments] at hrest
    rw [hrest]

/-! ## Every argument between quotes -/

theorem writes_join (args : List (List Char)) : Writes args (join args) := by
  have hspelled : ∀ argument : List Char, spelled [.quoted argument] = argument := by
    simp [spelled, Segment.text]
  have hspelling : ∀ argument : List Char, spelling [.quoted argument] = wrap argument := by
    simp [spelling, Segment.written]
  have hspaces : ∀ argument : List Char, ∀ s ∈ [Segment.quoted argument], s.KeepsSpaces := by
    intro argument s hs
    rw [List.mem_singleton.mp hs]
    trivial
  induction args with
  | nil => exact .nil
  | cons argument args ih =>
    cases args with
    | nil =>
      have hlast := Writes.last (hspaces argument)
      rwa [hspelled, hspelling] at hlast
    | cons next rest =>
      have hnext := Writes.next (hspaces argument) ih
      rwa [hspelled, hspelling] at hnext

/-- The arguments of a line are those that were written on it. -/
theorem split_of_writes {args : List String} {line : String}
    (hargs : ∀ argument ∈ args, argument ≠ "" ∧ quote ∉ argument.toList)
    (h : Writes (args.map String.toList) line.toList) : split line = args := by
  have harguments : arguments line.toList = args.map String.toList := by
    apply arguments_of_writes h
    intro chars hchars
    obtain ⟨argument, hmem, rfl⟩ := List.mem_map.mp hchars
    obtain ⟨hne, hquote⟩ := hargs argument hmem
    exact ⟨by simpa using hne, hquote⟩
  simp [split, harguments, Function.comp_def]

theorem split_ofArguments {args : List String}
    (hargs : ∀ argument ∈ args, argument ≠ "" ∧ quote ∉ argument.toList) :
    split (ofArguments args) = args := by
  apply split_of_writes hargs
  rw [ofArguments, String.toList_ofList]
  exact writes_join _

/-- Reading undoes writing: whatever segments the arguments are written in and however many spaces
stand between them, they are read back. The other way round, the arguments of any line, each put
between quotes, make a line that is read as the same arguments. -/
theorem split_undoes_writing :
    (∀ (args : List String) (line : String),
      (∀ argument ∈ args, argument ≠ "" ∧ quote ∉ argument.toList) →
      Writes (args.map String.toList) line.toList → split line = args) ∧
    ∀ line : String, split (ofArguments (split line)) = split line := by
  refine ⟨fun args line hargs h => split_of_writes hargs h, ?_⟩
  intro line
  apply split_ofArguments
  intro argument hargument
  obtain ⟨chars, hchars, rfl⟩ := List.mem_map.mp hargument
  obtain ⟨hne, hquote⟩ := ne_nil_and_not_mem_of_mem_arguments hchars
  exact ⟨by simpa using hne, by simpa using hquote⟩

/-- Quotes in the middle of an argument, empty quotes at the beginning of one, and many spaces. -/
theorem split_undoes_writing_mixed :
    (∀ argument ∈ ["/out:my lib.dll", "a b"], argument ≠ "" ∧ quote ∉ argument.toList) ∧
    Writes (["/out:my lib.dll", "a b"].map String.toList)
      "  /out:\"my lib\".dll  \"\"a\" b\"  ".toList ∧
    split "  /out:\"my lib\".dll  \"\"a\" b\"  " = ["/out:my lib.dll", "a b"] := by
  have hwrites : Writes
      [spelled [.bare "/out:".toList, .quoted "my lib".toList, .bare ".dll".toList],
        spelled [.quoted [], .bare ['a'], .quoted [' ', 'b']]]
      (separator :: separator ::
        (spelling [.bare "/out:".toList, .quoted "my lib".toList, .bare ".dll".toList] ++
          separator :: separator ::
            (spelling [.quoted [], .bare ['a'], .quoted [' ', 'b']] ++
              separator :: [separator]))) :=
    .space (.space (.next (by decide) (.space (.next (by decide) (.space .nil)))))
  have hargs : ∀ argument ∈ ["/out:my lib.dll", "a b"],
      argument ≠ "" ∧ quote ∉ argument.toList := by decide
  exact ⟨hargs, hwrites, split_undoes_writing.1 _ _ hargs hwrites⟩

end EngineHost.CommandLine
