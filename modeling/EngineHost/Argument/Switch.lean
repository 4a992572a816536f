import EngineHost.Argument.Error
import EngineHost.Text.Caseless

/-!
# Display switches

Two switches select how diagnostics are written. A switch is given as an argument of its own, after
a slash or two dashes, in any case. Switches are looked for in the whole argument vector and stay in
it: the engine sees them too.
-/

namespace EngineHost

open EngineHost.Text

/-- A switch, by the name that follows the slash or the dashes. -/
structure Switch where
  name : String
deriving DecidableEq, Repr

namespace Switch

/-- What follows the mark of a switch, if the argument begins with one. -/
def body? : List Char → Option (List Char)
  | '/' :: body => some body
  | '-' :: '-' :: body => some body
  | _ => none

/-- Is the argument this switch? The name is taken literally and compared without regard to case. -/
def accepts (s : Switch) (arg : String) : Bool :=
  match body? arg.toList with
  | some body => matchesCaseless s.name.toList body
  | none => false

/-- Is the switch among the arguments? The search goes from left to right, ends at the first match
and cannot look past an entry that is no text. -/
def occursIn (s : Switch) : List Value → Except ArgumentError Bool
  | [] => .ok false
  | v :: rest =>
    match v.expectText with
    | .error e => .error e
    | .ok arg => if s.accepts arg then .ok true else s.occursIn rest

/-- Positions are written with the end of the range. -/
def errorRanges : Switch := ⟨"test:ErrorRanges"⟩

/-- Lines are written for an editor: full range and subcategory. -/
def editorErrors : Switch := ⟨"vserrors"⟩

end Switch

/-- The display switches found in an argument vector. -/
structure DisplayFlags where
  errorRanges : Bool := false
  editorErrors : Bool := false
deriving DecidableEq, Repr, Inhabited

def DisplayFlags.scan (args : List Value) : Except ArgumentError DisplayFlags := do
  let errorRanges ← Switch.errorRanges.occursIn args
  let editorErrors ← Switch.editorErrors.occursIn args
  return { errorRanges, editorErrors }

end EngineHost
