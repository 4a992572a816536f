import EngineHost.Text.Lines

/-!
# Directory options

The directory that is given to the tool is tidied before use: components that are empty or a dot are
dropped, two dots stay. A path that begins with exactly two slashes keeps both, any other absolute
path keeps one. Nothing at all is the current directory.
-/

namespace EngineHost.Cli

open EngineHost.Text

/-- The slashes that an absolute path keeps. -/
def rootSlashes : List Char → List Char
  | ['/', '/'] => ['/', '/']
  | '/' :: '/' :: c :: _ => if c = '/' then ['/'] else ['/', '/']
  | '/' :: _ => ['/']
  | _ => []

/-- The components that count. -/
def pathComponents (path : List Char) : List (List Char) :=
  (cut (· == '/') path).filter fun component => component != [] && component != ['.']

def tidyPath (path : String) : String :=
  let s := path.toList
  let tidied := rootSlashes s ++ ['/'].intercalate (pathComponents s)
  if tidied.isEmpty then "." else String.ofList tidied

end EngineHost.Cli
