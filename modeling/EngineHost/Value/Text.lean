import EngineHost.Number.IntText
import EngineHost.Number.RealText
import EngineHost.Text.Quoted
import EngineHost.Value.Basic

/-!
# Text of values

A value is shown in two ways: `literal` puts texts between quotes and is used inside lists and in
messages that point at a value; `display` shows a text as it is. They differ on texts only.
-/

namespace EngineHost.Value

open EngineHost.Number EngineHost.Text

mutual

/-- A value as it is written inside a list or in a message. -/
def literal : Value → String
  | null => "None"
  | bool b => if b then "True" else "False"
  | int n => intText n
  | real x => x.text
  | text s => quoted s
  | list items => "[" ++ literals items ++ "]"

/-- Values between commas. -/
def literals : List Value → String
  | [] => ""
  | [v] => literal v
  | v :: w :: rest => literal v ++ ", " ++ literals (w :: rest)

end

def display : Value → String
  | text s => s
  | v => literal v

theorem display_text (s : String) : display (text s) = s := rfl

end EngineHost.Value
