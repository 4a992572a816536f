/-!
# Command lines

A command line is one text that holds the arguments of a call. A double quote switches between the
inside and the outside of quotes and belongs to no argument; a space outside quotes ends the
argument before it; nothing can be escaped. Arguments are never empty, and one whose quote is still
open at the end of the line is dropped.

`scan` reads a line in one pass; `wrap` and `join` write one.
-/

namespace EngineHost.CommandLine

/-- The character that switches quoting. -/
def quote : Char := '"'

def separator : Char := ' '

/-- The arguments so far, with a finished one in front unless it is empty. The finished argument is
given last character first. -/
def flush (reversed : List Char) (rest : List (List Char)) : List (List Char) :=
  if reversed.isEmpty then rest else reversed.reverse :: rest

/-- Read the rest of a line. `reversed` holds the argument under way, last character first. -/
def scan : (quoting : Bool) → (reversed : List Char) → List Char → List (List Char)
  | quoting, reversed, [] => if quoting then [] else flush reversed []
  | quoting, reversed, c :: rest =>
    if c = quote then scan (!quoting) reversed rest
    else if c = separator && !quoting then flush reversed (scan false [] rest)
    else scan quoting (c :: reversed) rest

def arguments (line : List Char) : List (List Char) := scan false [] line

def split (line : String) : List String :=
  (arguments line.toList).map String.ofList

def wrap (argument : List Char) : List Char := quote :: (argument ++ [quote])

/-- Every argument between quotes, separated by single spaces. -/
def join : List (List Char) → List Char
  | [] => []
  | [argument] => wrap argument
  | argument :: next :: rest => wrap argument ++ separator :: join (next :: rest)

/-- The arguments written on one line, each between quotes. -/
def ofArguments (args : List String) : String := String.ofList (join (args.map String.toList))

end EngineHost.CommandLine
