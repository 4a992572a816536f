import EngineHost.Text.Digit
import EngineHost.Text.Quoted

/-!
# Options of the command line tool

The tool takes one command line and a few options. A long option may be cut short as long as no
other begins like it, and may carry its value after an equals sign; a short one may carry its value
directly, and short ones without values may be written together. A value that is just two dashes is
taken away, so that the option is given as nothing. An argument that begins with a dash is
nevertheless no option if it is a lone dash, looks like a negative number, or holds a space and
begins like no option. After two dashes nothing is an option.
-/

namespace EngineHost.Cli

open EngineHost.Text

inductive OptionKey where
  | help
  | directory
  | engine
  | json
  | verbose
deriving DecidableEq, Repr

namespace OptionKey

def takesValue : OptionKey → Bool
  | directory | engine => true
  | help | json | verbose => false

def title : OptionKey → String
  | help => "-h/--help"
  | directory => "-C/--directory"
  | engine => "--engine"
  | json => "--json"
  | verbose => "-v/--verbose"

end OptionKey

/-- All spellings, in the order in which they are listed in messages. -/
def spellings : List (String × OptionKey) :=
  [("-h", .help), ("--help", .help), ("-C", .directory), ("--directory", .directory),
    ("--engine", .engine), ("--json", .json), ("-v", .verbose), ("--verbose", .verbose)]

def spelled? (s : List Char) : Option OptionKey :=
  (spellings.find? (·.1.toList == s)).map (·.2)

/-- The options with a spelling that begins like this, each with that spelling. -/
def beginningWith (s : List Char) : List (String × OptionKey) :=
  spellings.filter fun spelling => s.isPrefixOf spelling.1.toList

/-- Everything that was given. Without a `directory` the option was given, but as nothing. -/
structure Options where
  directory : Option String := some "."
  engine : Option String := none
  json : Bool := false
  verbose : Bool := false
  commandLine : String
deriving DecidableEq, Repr

/-- Why the arguments of the tool cannot be used. -/
inductive UsageError where
  | ambiguous (argument : String) (candidates : List String)
  | missingValue (key : OptionKey)
  | unexpectedValue (key : OptionKey) (value : String)
  | missingCommandLine
  | unrecognized (arguments : List String)
deriving DecidableEq, Repr

namespace UsageError

def message : UsageError → String
  | ambiguous argument candidates =>
    "ambiguous option: " ++ argument ++ " could match " ++ ", ".intercalate candidates
  | missingValue key => "argument " ++ key.title ++ ": expected one argument"
  | unexpectedValue key value =>
    "argument " ++ key.title ++ ": ignored explicit argument " ++ quoted value
  | missingCommandLine => "the following arguments are required: command_line"
  | unrecognized arguments => "unrecognized arguments: " ++ " ".intercalate arguments

end UsageError

inductive Word where
  /-- A value, or the command line. -/
  | plain (s : String)
  /-- An option; `short` tells which of its spellings was used. -/
  | option (key : OptionKey) (short : Bool) (value : Option (List Char))
  /-- It looks like an option, but there is none like it. -/
  | unknown (s : String)
  /-- The two dashes after which nothing is an option. -/
  | divider
deriving DecidableEq, Repr

/-- Digits of any script, at least one. -/
def isDigits (s : List Char) : Bool := !s.isEmpty && s.all fun c => (digitValue? c).isSome

/-- Does the argument, after its dash, look like a negative number? One line feed may follow. -/
def looksNumeric (body : List Char) : Bool :=
  let body := if body.getLast? = some '\n' then body.dropLast else body
  isDigits body ||
    match body.dropWhile (fun c => (digitValue? c).isSome) with
    | '.' :: fraction => isDigits fraction
    | _ => false

/-- What stands before and after the first equals sign. -/
def splitValue? (s : List Char) : Option (List Char × List Char) :=
  match s.dropWhile (· != '=') with
  | [] => none
  | _ :: value => some (s.takeWhile (· != '='), value)

/-- An argument that begins with a dash and is no option. -/
def nonOption (arg : String) (body : List Char) : Word :=
  if looksNumeric body || arg.toList.contains ' ' then .plain arg else .unknown arg

def isShort (s : List Char) : Bool :=
  match s with
  | '-' :: '-' :: _ => false
  | _ => true

/-- An argument with two dashes that is spelled like no option: perhaps a beginning of one. -/
def classifyLong (arg : String) (body : List Char) : Except UsageError Word :=
  let (start, value) :=
    match splitValue? arg.toList with
    | some (start, value) => (start, some value)
    | none => (arg.toList, none)
  match beginningWith start with
  | [] => .ok (nonOption arg body)
  | [(_, key)] => .ok (.option key false value)
  | several => .error (.ambiguous arg (several.map (·.1)))

/-- An argument with one dash that is spelled like no option: perhaps a short option and its value,
or several short options. -/
def classifyShort (arg : String) (body : List Char) : Word :=
  match spelled? (arg.toList.take 2) with
  | some key => .option key true (some (arg.toList.drop 2))
  | none => nonOption arg body

/-- How an argument is taken, as long as no divider stands before it. -/
def classify (arg : String) : Except UsageError Word :=
  let s := arg.toList
  match s with
  | ['-', '-'] => .ok .divider
  | '-' :: c :: rest =>
    match spelled? s with
    | some key => .ok (.option key (isShort s) none)
    | none =>
      -- A full spelling before the equals sign comes before any shortened one.
      let exact := (splitValue? s).bind fun (start, value) =>
        (spelled? start).map fun key => Word.option key (isShort start) (some value)
      match exact with
      | some word => .ok word
      | none =>
        if c = '-' then classifyLong arg (c :: rest) else .ok (classifyShort arg (c :: rest))
  | _ => .ok (.plain arg)

def classifyAll : List String → Except UsageError (List Word)
  | [] => .ok []
  | arg :: rest =>
    (classify arg).bind fun word =>
      if word = .divider then .ok (.divider :: rest.map .plain)
      else (classifyAll rest).map (word :: ·)

end EngineHost.Cli
