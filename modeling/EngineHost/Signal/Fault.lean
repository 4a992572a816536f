import EngineHost.Signal.Basic
import EngineHost.Text.Lines

/-!
# Faults in one line

The full account of a signal begins with the accounts of what led to it: its cause, or else its
context. Then comes a heading, if the signal was raised, and its name and text. A fault is shown on
one line: the line breaks at the end are dropped, and every other one becomes a space.
-/

namespace EngineHost.Signal

open EngineHost.Text

def heading : String := "Traceback (most recent call last):\n"

/-- What stands between a cause and the signal it led to. -/
def causeLink : String :=
  "\nThe above exception was the direct cause of the following exception:\n\n"

/-- What stands between a context and the signal raised in it. -/
def contextLink : String :=
  "\nDuring handling of the above exception, another exception occurred:\n\n"

/-- The name of a signal and its text, if it has one. -/
def headline (s : Signal) : String :=
  if s.text.isEmpty then s.fullName ++ "\n" else s.fullName ++ ": " ++ s.text ++ "\n"

/-- The account of a signal without what led to it. -/
def ownAccount (s : Signal) : String :=
  if s.raised then heading ++ s.headline else s.headline

/-- The full account of a signal. A cause hides the context. -/
def account : Signal → String
  | ⟨body, raised, some cause, context⟩ =>
    cause.account ++ causeLink ++ ownAccount ⟨body, raised, some cause, context⟩
  | ⟨body, raised, none, some context⟩ =>
    context.account ++ contextLink ++ ownAccount ⟨body, raised, none, some context⟩
  | ⟨body, raised, none, none⟩ => ownAccount ⟨body, raised, none, none⟩

def faultLine (s : Signal) : String :=
  String.ofList (flatten (dropFinalBreaks s.account.toList))

end EngineHost.Signal
