import EngineHost.Compiler.Basic

/-!
# Argument vectors of texts

Nothing can go wrong with an argument vector whose entries are all texts: the program argument is
put in front where it is missing, and the display switches are searched for to the end. The argument
vector on a command line is one of these.
-/

namespace EngineHost

def Value.texts (args : List String) : List Value := args.map .text

namespace Program

/-- Texts with a program argument in front. -/
def ensureTexts (name : String) : List String → List String
  | [] => [name]
  | first :: rest => if isPath name first then first :: rest else name :: first :: rest

/-- Only the first entry is looked at. -/
theorem ensure_cons_text (name first : String) (rest : List Value) :
    ensure name (.list (.text first :: rest)) =
      .ok (if isPath name first then .text first :: rest
        else .text name :: .text first :: rest) := by
  simp only [ensure, Value.isTruthy, List.isEmpty_cons, Bool.not_false, if_true, Value.entries,
    Except.bind, Value.expectText, Except.map]

theorem ensure_texts (name : String) (args : List String) :
    ensure name (.list (Value.texts args)) = .ok (Value.texts (ensureTexts name args)) := by
  cases args with
  | nil => rfl
  | cons first rest =>
    rw [Value.texts, List.map_cons, ensure_cons_text, ensureTexts]
    split <;> rfl

end Program

namespace Switch

/-- Among texts the search ends with an answer, and it is the right one. -/
theorem occursIn_texts (s : Switch) (args : List String) :
    s.occursIn (Value.texts args) = .ok (args.any s.accepts) := by
  induction args with
  | nil => rfl
  | cons arg rest ih =>
    unfold Value.texts at ih ⊢
    rw [List.map_cons, occursIn, List.any_cons]
    simp only [Value.expectText]
    cases h : s.accepts arg with
    | true => rw [if_pos rfl, Bool.true_or]
    | false => rw [if_neg Bool.false_ne_true, Bool.false_or, ih]

end Switch

/-- The display switches among texts. -/
def DisplayFlags.ofTexts (args : List String) : DisplayFlags :=
  { errorRanges := args.any Switch.errorRanges.accepts
    editorErrors := args.any Switch.editorErrors.accepts }

theorem DisplayFlags.scan_texts (args : List String) :
    scan (Value.texts args) = .ok (ofTexts args) := by
  rw [scan, Switch.occursIn_texts, Switch.occursIn_texts]
  rfl

theorem Compiler.prepare_texts (programName : String) (args : List String) :
    prepare programName (.list (Value.texts args)) =
      .ok (Value.texts (Program.ensureTexts programName args),
        .ofTexts (Program.ensureTexts programName args)) := by
  rw [prepare, Program.ensure_texts]
  show (DisplayFlags.scan _).map _ = _
  rw [DisplayFlags.scan_texts]
  rfl

end EngineHost
