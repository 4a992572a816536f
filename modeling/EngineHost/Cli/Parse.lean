import EngineHost.Cli.Options

/-!
# Reading the tool's arguments

Options take effect in order, and the last value of an option wins. The first plain argument is the
command line; further ones, and options that there are not, are left over. A request for help takes
effect at once, whatever follows.
-/

namespace EngineHost.Cli

open EngineHost.Text

/-- What has been read so far. `extras` are the arguments left over. -/
structure Reading where
  directory : Option String := some "."
  engine : Option String := none
  json : Bool := false
  verbose : Bool := false
  commandLine : Option String := none
  extras : List String := []
deriving Repr, Inhabited

inductive Interruption where
  | help
  | usage (e : UsageError)
deriving DecidableEq, Repr

namespace Reading

def set (r : Reading) : OptionKey → Except Interruption Reading
  | .help => .error .help
  | .json => .ok { r with json := true }
  | .verbose => .ok { r with verbose := true }
  | _ => .ok r

/-- What is left of a value: nothing if it is just two dashes. -/
def taken (value : String) : Option String := if value = "--" then none else some value

def setValue (r : Reading) (value : String) : OptionKey → Reading
  | .directory => { r with directory := taken value }
  | .engine => { r with engine := taken value }
  | _ => r

/-- Options without values take effect one after the other. -/
def setAll (r : Reading) : List OptionKey → Except Interruption Reading
  | [] => .ok r
  | key :: rest => (r.set key).bind (·.setAll rest)

def leaveOver (r : Reading) (arg : String) : Reading := { r with extras := r.extras ++ [arg] }

end Reading

/-- One argument's worth of options: those without values, in order, and the one at the end that has
a value, which may still have to be taken from the next argument. -/
structure Cluster where
  flags : List OptionKey
  valued : Option (OptionKey × Option String)
deriving DecidableEq, Repr

/-- Split the rest of an argument into options. `value` is what follows the option under its own
spelling; after a short option without a value, its characters are further short options. -/
def cluster (key : OptionKey) (short : Bool) : Option (List Char) → Except UsageError Cluster
  | none =>
    .ok (if key.takesValue then { flags := [], valued := some (key, none) }
      else { flags := [key], valued := none })
  | some value =>
    if key.takesValue then
      .ok { flags := [], valued := some (key, some (String.ofList value)) }
    else if short then further key value
    else .error (.unexpectedValue key (String.ofList value))
where
  /-- The options that follow a short one without a value. -/
  further (key : OptionKey) : List Char → Except UsageError Cluster
    | [] => .error (.unexpectedValue key "")
    | c :: rest =>
      match spelled? ['-', c] with
      | none => .error (.unexpectedValue key (String.ofList (c :: rest)))
      | some next =>
        if next.takesValue then
          let value := if rest.isEmpty then none else some (String.ofList rest)
          .ok { flags := [key], valued := some (next, value) }
        else if rest.isEmpty then .ok { flags := [key, next], valued := none }
        else (further next rest).map fun c => { c with flags := key :: c.flags }

def readWords (r : Reading) : List Word → Except Interruption Reading
  | [] => .ok r
  | .plain arg :: rest =>
    match r.commandLine with
    | none =>
      let r := { r with commandLine := some arg }
      -- A divider that directly follows the command line goes with it.
      match rest with
      | .divider :: rest => readWords r rest
      | rest => readWords r rest
    | some _ => readWords (r.leaveOver arg) rest
  | .unknown arg :: rest => readWords (r.leaveOver arg) rest
  | .divider :: rest =>
    match r.commandLine, rest with
    | none, .plain arg :: rest => readWords { r with commandLine := some arg } rest
    -- With no argument to turn into the command line, the divider is left over.
    | _, rest => readWords (r.leaveOver "--") rest
  | .option key short value :: rest =>
    match cluster key short value with
    | .error e => .error (.usage e)
    | .ok c =>
      match c.valued with
      | none => (r.setAll c.flags).bind (readWords · rest)
      | some (key, some value) =>
        (r.setAll c.flags).bind fun r => readWords (r.setValue value key) rest
      | some (key, none) =>
        -- Only a plain argument can be a value.
        match rest with
        | .plain value :: rest =>
          (r.setAll c.flags).bind fun r => readWords (r.setValue value key) rest
        | _ => .error (.usage (.missingValue key))

/-- The options that were read, if the command line is there and nothing is left over. -/
def Reading.options (r : Reading) : Except Interruption Options :=
  match r.commandLine with
  | none => .error (.usage .missingCommandLine)
  | some commandLine =>
    if r.extras.isEmpty then
      .ok { directory := r.directory, engine := r.engine, json := r.json, verbose := r.verbose,
            commandLine }
    else .error (.usage (.unrecognized r.extras))

def parse (args : List String) : Except Interruption Options :=
  match classifyAll args with
  | .error e => .error (.usage e)
  | .ok words => (readWords {} words).bind Reading.options

end EngineHost.Cli
