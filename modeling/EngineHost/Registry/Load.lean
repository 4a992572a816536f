import EngineHost.Signal.Basic
import EngineHost.Text.Lines

/-!
# Finding an engine

An engine is named by a reference `MODULE:ATTR`. The module is imported and its attributes are
followed, from left to right, along the names between the dots of `ATTR`. The object found is the
engine if it can be called; if not, its attribute `compile` is tried, once.

Everything up to the first colon is the module's name; further colons, and empty names between dots,
are taken as written.
-/

namespace EngineHost

/-- Where modules are found: what importing a name gives, which attributes an object has, and which
objects can be called. -/
structure ModuleSpace (ω : Type) where
  importModule : String → Except Signal ω
  attribute? : ω → String → Option ω
  isCallable : ω → Bool

/-- Why a reference names no engine. -/
inductive LoadError where
  | unconfigured
  | malformed (reference : String)
  | importFailed (moduleName reason : String)
  | noAttribute (moduleName path : String)
  | notCallable (reference : String)
deriving DecidableEq, Repr

namespace LoadError

def message : LoadError → String
  | unconfigured =>
    "no compiler engine configured (use --engine MODULE:ATTR or FSCHOST_ENGINE)"
  | malformed reference =>
    "invalid engine reference '" ++ reference ++ "' (expected MODULE:ATTR)"
  | importFailed moduleName reason =>
    "cannot import engine module '" ++ moduleName ++ "': " ++ reason
  | noAttribute moduleName path =>
    "engine module '" ++ moduleName ++ "' has no attribute '" ++ path ++ "'"
  | notCallable reference => "engine '" ++ reference ++ "' is not callable"

def signal (e : LoadError) : Signal := .of .engineLoad e.message

end LoadError

/-- What can go wrong on the way to an engine: the reference names none, or a signal that is not
ordinary left the import. -/
inductive LoadFailure where
  | refused (e : LoadError)
  | interrupted (s : Signal)
deriving Repr

/-- The two parts of a reference: what stands before and after the first colon, both non-empty. -/
def splitReference? (reference : String) : Option (String × String) :=
  let s := reference.toList
  let moduleName := s.takeWhile (· != ':')
  match s.dropWhile (· != ':') with
  | [] => none
  | _ :: path =>
    if moduleName.isEmpty || path.isEmpty then none
    else some (String.ofList moduleName, String.ofList path)

def dottedNames (s : String) : List String :=
  (Text.cut (· == '.') s.toList).map String.ofList

namespace ModuleSpace

variable {ω : Type} (space : ModuleSpace ω)

def follow? (object : ω) : List String → Option ω
  | [] => some object
  | name :: rest => (space.attribute? object name).bind (follow? · rest)

/-- What is called in an object's place: the object, or else its attribute `compile`. -/
def callable? (object : ω) : Option ω :=
  if space.isCallable object then some object
  else (space.attribute? object "compile").filter space.isCallable

/-- Import a module; an ordinary signal that leaves it is a reason to refuse the reference. -/
def importOrRefuse (moduleName : String) : Except LoadFailure ω :=
  match space.importModule moduleName with
  | .ok object => .ok object
  | .error s =>
    if s.isOrdinary then .error (.refused (.importFailed moduleName s.text))
    else .error (.interrupted s)

def load (reference : Option String) : Except LoadFailure ω :=
  match reference with
  | none => .error (.refused .unconfigured)
  | some "" => .error (.refused .unconfigured)
  | some reference =>
    match splitReference? reference with
    | none => .error (.refused (.malformed reference))
    | some (moduleName, path) =>
      (space.importOrRefuse moduleName).bind fun object =>
        match space.follow? object (dottedNames path) with
        | none => .error (.refused (.noAttribute moduleName path))
        | some object =>
          match space.callable? object with
          | none => .error (.refused (.notCallable reference))
          | some engine => .ok engine

end ModuleSpace

end EngineHost
