import EngineHost.Argument.Error
import EngineHost.Text.Caseless

/-!
# The program argument

An engine does not look at its first argument, which names the program. An argument vector whose
first entry does not look like the program gets the program's name put in front.

An argument looks like the program when it ends with the program's name, in any case, with or
without `.exe`; one line feed may follow.
-/

namespace EngineHost.Program

open EngineHost.Text

/-- The name of the program, unless a host is given another. -/
def defaultName : String := "fsc"

def fileSuffix : List Char := ".exe".toList

/-- What follows `pattern` at the beginning of a text, without regard to case. -/
def after? : (pattern text : List Char) → Option (List Char)
  | [], text => some text
  | _ :: _, [] => none
  | p :: pattern, c :: text => if sameCaseless p c then after? pattern text else none

/-- Does the text end here, up to one line feed? -/
def endsHere (rest : List Char) : Bool := rest.isEmpty || rest == ['\n']

/-- Does the text begin with the name, the suffix or nothing, and the end? -/
def matchesHere (name text : List Char) : Bool :=
  match after? name text with
  | none => false
  | some rest =>
    endsHere rest ||
      match after? fileSuffix rest with
      | none => false
      | some rest => endsHere rest

/-- Does some tail of the text, the text itself and the empty one included, match? -/
def matchesSomewhere (name : List Char) : List Char → Bool
  | [] => matchesHere name []
  | c :: text => matchesHere name (c :: text) || matchesSomewhere name text

def isPath (name arg : String) : Bool := matchesSomewhere name.toList arg.toList

/-- The argument vector with a program argument in front. A missing or empty vector becomes the name
alone. -/
def ensure (name : String) (argv : Value) : Except ArgumentError (List Value) :=
  if argv.isTruthy then
    argv.entries.bind fun args =>
      match args with
      | [] => .ok [.text name]
      | first :: _ =>
        first.expectText.map fun arg => if isPath name arg then args else .text name :: args
  else .ok [.text name]

end EngineHost.Program
