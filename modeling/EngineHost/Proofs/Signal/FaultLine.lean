import EngineHost.Proofs.Text.Lines
import Mathlib.Data.List.DropRight
import Mathlib.Data.List.Forall2

/-!
# The line of a fault by its parts

The account of a signal that was led to by others begins with theirs. Its line breaks are dropped at
the end of the whole account and nowhere else, so the line of the signal is made of the accounts of
the others, with every break kept as a space, and of the line of the signal alone; and the breaks that
are lost are those at the end of its own text.

Main facts: `isFlattening_faultLine`, `faultLine_of_cause`, `faultLine_of_context`,
`faultLine_eq_label`, `faultLine_by_parts`.
-/

namespace EngineHost

namespace Text

/-- A text with a space for every line break. -/
def oneLine (text : String) : String := String.ofList (flatten text.toList)

/-- A text without the line breaks at its end. -/
def withoutFinalBreaks (text : String) : String := String.ofList (dropFinalBreaks text.toList)

/-- The line is the text without the run of line breaks at its end, character by character, but with a
space in the place of each of the other breaks. -/
def IsFlattening (text line : String) : Prop :=
  ∃ shown breaks : List Char, text.toList = shown ++ breaks ∧
    (∀ c ∈ breaks, c = '\r' ∨ c = '\n') ∧
    (∀ c, shown.getLast? = some c → c ≠ '\r' ∧ c ≠ '\n') ∧
    List.Forall₂ (fun c d => d = if c = '\r' ∨ c = '\n' then ' ' else c) shown line.toList

theorem oneLine_append (a b : String) : oneLine (a ++ b) = oneLine a ++ oneLine b := by
  rw [oneLine, String.toList_append, flatten, List.map_append, String.ofList_append]
  rfl

theorem oneLine_of_not_hasBreak {text : String} (h : ¬ HasBreak text) : oneLine text = text := by
  have hchars : flatten text.toList = text.toList := by
    rw [flatten]
    conv_rhs => rw [← List.map_id text.toList]
    apply List.map_congr_left
    intro c hc
    rw [not_hasBreak_iff.mp h c hc]
    rfl
  rw [oneLine, hchars, String.ofList_toList]

theorem dropFinalBreaks_eq_rdropWhile (s : List Char) :
    dropFinalBreaks s = s.rdropWhile isBreak := rfl

/-- What stands before a character that is no break, and the character, are kept. -/
theorem dropFinalBreaks_append_cons (a : List Char) {c : Char} (hc : isBreak c = false)
    (b : List Char) : dropFinalBreaks (a ++ c :: b) = a ++ c :: dropFinalBreaks b := by
  have hkept : (c :: a.reverse).dropWhile isBreak = c :: a.reverse :=
    List.dropWhile_cons_of_neg (Bool.eq_false_iff.mp hc)
  have hreverse : (a ++ c :: b).reverse = b.reverse ++ c :: a.reverse := by simp
  rw [dropFinalBreaks, dropFinalBreaks, hreverse, List.dropWhile_append, hkept]
  split
  next hempty =>
    rw [List.isEmpty_iff.mp hempty]
    simp
  next => simp

theorem withoutFinalBreaks_append (a : String) {b : String}
    (h : ∃ c ∈ b.toList, isBreak c = false) :
    withoutFinalBreaks (a ++ b) = a ++ withoutFinalBreaks b := by
  obtain ⟨c, hc, hbreak⟩ := h
  obtain ⟨before, after, hchars⟩ := List.append_of_mem hc
  rw [withoutFinalBreaks, withoutFinalBreaks, String.toList_append, hchars, ← List.append_assoc,
    dropFinalBreaks_append_cons _ hbreak, dropFinalBreaks_append_cons _ hbreak, List.append_assoc,
    String.ofList_append, String.ofList_toList]

theorem withoutFinalBreaks_break (a : String) :
    withoutFinalBreaks (a ++ "\n") = withoutFinalBreaks a := by
  have hbreak : "\n".toList = ['\n'] := rfl
  rw [withoutFinalBreaks, String.toList_append, hbreak, dropFinalBreaks_eq_rdropWhile,
    List.rdropWhile_concat_pos isBreak a.toList '\n' rfl]
  rfl

theorem withoutFinalBreaks_of_not_hasBreak {text : String} (h : ¬ HasBreak text) :
    withoutFinalBreaks text = text := by
  have hself : dropFinalBreaks text.toList = text.toList := by
    rw [dropFinalBreaks_eq_rdropWhile, List.rdropWhile_eq_self_iff]
    intro hne
    rw [not_hasBreak_iff.mp h _ (List.getLast_mem hne)]
    exact Bool.false_ne_true
  rw [withoutFinalBreaks, hself, String.ofList_toList]

theorem isFlattening_oneLine (text : String) :
    IsFlattening text (oneLine (withoutFinalBreaks text)) := by
  refine ⟨dropFinalBreaks text.toList, text.toList.rtakeWhile isBreak, ?_, ?_, ?_, ?_⟩
  · exact List.rdropWhile_append_rtakeWhile.symm
  · intro c hc
    exact isBreak_iff.mp (List.mem_rtakeWhile_imp hc)
  · intro c hc
    have hne : text.toList.rdropWhile isBreak ≠ [] := by
      intro hnil
      rw [dropFinalBreaks_eq_rdropWhile, hnil] at hc
      contradiction
    have hlast := List.rdropWhile_last_not isBreak text.toList hne
    rw [dropFinalBreaks_eq_rdropWhile, List.getLast?_eq_some_getLast hne, Option.some.injEq] at hc
    rwa [hc, isBreak_iff, not_or] at hlast
  · rw [oneLine, withoutFinalBreaks, String.toList_ofList, String.toList_ofList, flatten,
      List.forall₂_map_right_iff, List.forall₂_same]
    intro c _
    simp only [isBreak_iff]

end Text

namespace Signal

open EngineHost.Text

/-- The signal without what led to it. -/
def alone (s : Signal) : Signal := { s with cause := none, context := none }

theorem faultLine_eq_oneLine (s : Signal) :
    s.faultLine = oneLine (withoutFinalBreaks s.account) := by
  rw [faultLine, oneLine, withoutFinalBreaks, String.toList_ofList]

theorem isFlattening_faultLine (s : Signal) : IsFlattening s.account s.faultLine := by
  rw [faultLine_eq_oneLine]
  exact isFlattening_oneLine s.account

theorem text_alone (s : Signal) : s.alone.text = s.text := by
  obtain ⟨body, raised, cause, context⟩ := s
  cases body with
  | plain kind message => cases kind <;> cases message <;> rfl
  | exit code => rfl
  | wrapped inner => rfl

theorem account_alone (s : Signal) : s.alone.account = s.ownAccount := by
  have hname : s.alone.fullName = s.fullName := rfl
  have hraised : s.alone.raised = s.raised := rfl
  have hown : s.alone.account = s.alone.ownAccount := rfl
  rw [hown, ownAccount, ownAccount, headline, headline, text_alone, hname, hraised]

theorem account_of_cause {s cause : Signal} (h : s.cause = some cause) :
    s.account = cause.account ++ causeLink ++ s.ownAccount := by
  obtain ⟨body, raised, _, context⟩ := s
  subst h
  rw [account]

theorem account_of_context {s context : Signal} (hcause : s.cause = none)
    (h : s.context = some context) :
    s.account = context.account ++ contextLink ++ s.ownAccount := by
  obtain ⟨body, raised, _, _⟩ := s
  subst hcause h
  rw [account]

/-! ## What led to a signal -/

/-- Nothing of an account is dropped but at the end of the signal's own. -/
theorem faultLine_of_account {s : Signal} {before : String}
    (h : s.account = before ++ s.ownAccount) :
    s.faultLine = oneLine before ++ s.alone.faultLine := by
  rw [faultLine_eq_oneLine, faultLine_eq_oneLine, h,
    withoutFinalBreaks_append before s.exists_mem_ownAccount, oneLine_append, account_alone]

theorem oneLine_causeLink :
    oneLine causeLink =
      " The above exception was the direct cause of the following exception:  " := by
  cbv

theorem oneLine_contextLink :
    oneLine contextLink =
      " During handling of the above exception, another exception occurred:  " := by
  cbv

theorem faultLine_of_cause {s cause : Signal} (h : s.cause = some cause) :
    s.faultLine =
      oneLine cause.account ++
        " The above exception was the direct cause of the following exception:  " ++
        s.alone.faultLine := by
  rw [faultLine_of_account (account_of_cause h), oneLine_append, oneLine_causeLink]

theorem faultLine_of_context {s context : Signal} (hcause : s.cause = none)
    (h : s.context = some context) :
    s.faultLine =
      oneLine context.account ++
        " During handling of the above exception, another exception occurred:  " ++
        s.alone.faultLine := by
  rw [faultLine_of_account (account_of_context hcause h), oneLine_append, oneLine_contextLink]

/-- A cause hides the context. -/
theorem faultLine_withContext {s cause : Signal} (h : s.cause = some cause)
    (context : Option Signal) : ({ s with context } : Signal).faultLine = s.faultLine := by
  have halone : ({ s with context } : Signal).alone = s.alone := rfl
  rw [faultLine_of_cause h, faultLine_of_cause (s := { s with context }) h, halone]

/-! ## A signal alone -/

/-- A signal on a line: whether it was raised, its name, and a text if it has one. -/
def label (s : Signal) (text : String) : String :=
  (if s.raised then "Traceback (most recent call last): " else "") ++ s.fullName ++
    if s.text.isEmpty then "" else ": " ++ oneLine text

theorem not_hasBreak_fullName (s : Signal) : ¬ HasBreak s.fullName := by
  have hkind : ∀ kind : SignalKind,
      ((kind.home?.map (· ++ ".")).getD "" ++ kind.name).toList.any isBreak = false := by
    intro kind
    cases kind <;> simp [SignalKind.home?, SignalKind.name, isBreak]
  have hexit : "SystemExit".toList.any isBreak = false := by decide
  have hwrapped : "fschost.engine.WrappedError".toList.any isBreak = false := by decide
  have hnone : s.fullName.toList.any isBreak = false := by
    unfold fullName
    cases s.body with
    | plain kind message => exact hkind kind
    | exit code => exact hexit
    | wrapped inner => exact hwrapped
  rw [not_hasBreak_iff]
  intro c hc
  exact Bool.eq_false_iff.mpr (List.any_eq_false.mp hnone c hc)

theorem oneLine_heading : oneLine heading = "Traceback (most recent call last): " := by
  cbv

theorem oneLine_headline (s : Signal) :
    oneLine s.headline =
      s.fullName ++ (if s.text.isEmpty then "" else ": " ++ oneLine s.text) ++ " " := by
  have hname := oneLine_of_not_hasBreak s.not_hasBreak_fullName
  have hcolon : oneLine ": " = ": " := by decide +kernel
  have hbreak : oneLine "\n" = " " := by decide +kernel
  unfold headline
  split
  · rw [oneLine_append, hname, hbreak, String.append_empty]
  · simp only [oneLine_append, hname, hcolon, hbreak, String.append_assoc]

/-- As a part of a longer account a signal keeps every line break of its text. -/
theorem oneLine_ownAccount (s : Signal) : oneLine s.ownAccount = s.label s.text ++ " " := by
  unfold ownAccount label
  split
  · rw [oneLine_append, oneLine_heading, oneLine_headline, String.append_assoc, String.append_assoc,
      String.append_assoc]
  · rw [oneLine_headline, String.empty_append]

theorem withoutFinalBreaks_headline (s : Signal) :
    withoutFinalBreaks s.headline =
      s.fullName ++ if s.text.isEmpty then "" else ": " ++ withoutFinalBreaks s.text := by
  unfold headline
  split
  · rw [withoutFinalBreaks_break, withoutFinalBreaks_of_not_hasBreak s.not_hasBreak_fullName,
      String.append_empty]
  · -- The blank after the name is no break, so the name is kept whatever the text is made of.
    have hblank : (s.fullName ++ ": " ++ s.text).toList =
        (s.fullName.toList ++ [':']) ++ ' ' :: s.text.toList := by simp
    rw [withoutFinalBreaks_break, withoutFinalBreaks, hblank,
      dropFinalBreaks_append_cons _ rfl, withoutFinalBreaks]
    simp [← String.toList_inj]

theorem faultLine_alone (s : Signal) :
    s.alone.faultLine = s.label (withoutFinalBreaks s.text) := by
  have hheadline : oneLine (withoutFinalBreaks s.headline) =
      s.fullName ++ if s.text.isEmpty then "" else ": " ++ oneLine (withoutFinalBreaks s.text) := by
    have hname := oneLine_of_not_hasBreak s.not_hasBreak_fullName
    have hcolon : oneLine ": " = ": " := by decide +kernel
    rw [withoutFinalBreaks_headline, oneLine_append, hname]
    split
    · rfl
    · rw [oneLine_append, hcolon]
  rw [faultLine_eq_oneLine, account_alone]
  unfold ownAccount label
  split
  · rw [withoutFinalBreaks_append heading s.exists_mem_headline, oneLine_append, oneLine_heading,
      hheadline, String.append_assoc]
  · rw [hheadline, String.empty_append]

/-! ## Chains of signals -/

/-- What led to a signal, oldest first. Every text keeps the line breaks at its end, as spaces. -/
def preceding : Signal → String
  | ⟨_, _, some cause, _⟩ =>
    cause.preceding ++ cause.label cause.text ++ " " ++
      " The above exception was the direct cause of the following exception:  "
  | ⟨_, _, none, some context⟩ =>
    context.preceding ++ context.label context.text ++ " " ++
      " During handling of the above exception, another exception occurred:  "
  | ⟨_, _, none, none⟩ => ""

-- By induction on the chain: the account of what led to the signal is known.
theorem oneLine_account : (s : Signal) →
    oneLine s.account = s.preceding ++ s.label s.text ++ " "
  | ⟨body, raised, some cause, context⟩ => by
    rw [account, oneLine_append, oneLine_append, oneLine_account cause, oneLine_causeLink,
      oneLine_ownAccount, preceding, ← String.append_assoc]
  | ⟨body, raised, none, some context⟩ => by
    rw [account, oneLine_append, oneLine_append, oneLine_account context, oneLine_contextLink,
      oneLine_ownAccount, preceding, ← String.append_assoc]
  | ⟨body, raised, none, none⟩ => by
    rw [account, oneLine_ownAccount, preceding, String.empty_append]

theorem faultLine_eq_label (s : Signal) :
    s.faultLine = s.preceding ++ s.label (withoutFinalBreaks s.text) := by
  rw [← faultLine_alone]
  obtain ⟨body, raised, cause, context⟩ := s
  cases cause with
  | some cause => rw [faultLine_of_cause rfl, oneLine_account, preceding]
  | none =>
    cases context with
    | some context => rw [faultLine_of_context rfl rfl, oneLine_account, preceding]
    | none =>
      rw [preceding, String.empty_append]
      rfl

/-- The line of a fault is never empty and holds no line break. It is the account of the signal without
the line breaks at its end and with a space for each of the others. It begins with the account of the
cause, all of whose line breaks are kept as spaces, and ends with the line of the signal alone; a
context is shown in the same way if there is no cause, and not at all if there is one. However long the
chain is, only the text of the last signal loses the line breaks at its end. -/
theorem faultLine_by_parts (s : Signal) :
    s.faultLine ≠ "" ∧ ¬ HasBreak s.faultLine ∧ IsFlattening s.account s.faultLine ∧
    (∀ cause, s.cause = some cause →
      s.faultLine =
        oneLine cause.account ++
          " The above exception was the direct cause of the following exception:  " ++
          s.alone.faultLine ∧
      ∀ context, ({ s with context } : Signal).faultLine = s.faultLine) ∧
    (∀ context, s.cause = none → s.context = some context →
      s.faultLine =
        oneLine context.account ++
          " During handling of the above exception, another exception occurred:  " ++
          s.alone.faultLine) ∧
    s.faultLine = s.preceding ++ s.label (withoutFinalBreaks s.text) :=
  ⟨s.faultLine_ne_empty, s.not_hasBreak_faultLine, s.isFlattening_faultLine,
    fun _ h => ⟨faultLine_of_cause h, faultLine_withContext h⟩,
    fun _ hcause h => faultLine_of_context hcause h, s.faultLine_eq_label⟩

/-- A text of line breaks only is lost at the end of a line, and kept in the account that another line
begins with. -/
example :
    let breaks : Signal := { body := .plain .value (some "\r\n\n") }
    breaks.faultLine = "ValueError: " ∧ oneLine breaks.account = "ValueError:     " := by
  decide +kernel

end Signal

end EngineHost
