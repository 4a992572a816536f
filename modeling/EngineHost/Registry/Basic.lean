import EngineHost.Registry.Load
import EngineHost.Script.Perform

/-!
# Registries

A registry lists the modules that can be imported. A module's members are scripts, which can be
called, groups of further members, and plain values; or the module cannot be imported because its
body raises a signal.

A module that is defined is found under its name, dots or not. Every other name with dots begins with
the import of the module named by everything before its last dot; and as no module of a registry has
others inside it, such an import fails even if the first one does not. So the body of a module that
cannot be imported runs only under a name without dots.
-/

namespace EngineHost

inductive Member where
  | engine (script : Script)
  | group (members : List (String × Member))
  | value (v : Value)

inductive EngineModule where
  | faulty (s : Signal)
  | defined (members : List (String × Member))

abbrev Registry := List (String × EngineModule)

structure Located where
  moduleName : String
  path : List String
  member : Member

namespace Located

/-- The reference that leads straight to the member. -/
def reference (l : Located) : String := l.moduleName ++ ":" ++ ".".intercalate l.path

/-- The attribute of a group; nothing else has any. -/
def attribute? (l : Located) (name : String) : Option Located :=
  match l.member with
  | .group members =>
    (members.find? (·.1 == name)).map fun (_, m) =>
      { l with path := l.path ++ [name], member := m }
  | _ => none

def isCallable (l : Located) : Bool :=
  match l.member with
  | .engine _ => true
  | _ => false

/-- The engine of a member that can be called; any other does nothing. -/
def engine (l : Located) : Engine :=
  match l.member with
  | .engine script => script.engine
  | _ => Script.engine []

end Located

namespace Registry

def notFound (name : String) : Signal :=
  .of .moduleNotFound ("No module named " ++ Text.quoted name)

/-- The signal for a module inside one that has none. -/
def notPackage (name parent : String) : Signal :=
  .of .moduleNotFound
    ("No module named " ++ Text.quoted name ++ "; " ++ Text.quoted parent ++ " is not a package")

/-- The signal for a name that begins with a dot. -/
def relative (name : String) : Signal :=
  .of .type ("the 'package' argument is required to perform a relative import for " ++
    Text.quoted name)

/-- The name with the given components, last one first. -/
def joinReversed (components : List String) : String := ".".intercalate components.reverse

def module? (r : Registry) (name : String) : Option EngineModule :=
  (r.find? (·.1 == name)).map (·.2)

/-- Import the module whose name has the given components, last one first. -/
def importComponents (r : Registry) : List String → Except Signal Located
  | [] => .error (notFound "")
  | last :: parents =>
    let name := joinReversed (last :: parents)
    match r.module? name, parents with
    | some (.defined members), _ => .ok { moduleName := name, path := [], member := .group members }
    | some (.faulty s), [] => .error s
    | none, [] => .error (notFound name)
    | _, parents =>
      (importComponents r parents).bind fun _ => .error (notPackage name (joinReversed parents))

def importModule (r : Registry) (name : String) : Except Signal Located :=
  if name.toList.head? = some '.' then .error (relative name)
  else r.importComponents (dottedNames name).reverse

/-- The registry as a place where modules are found. -/
def space (r : Registry) : ModuleSpace Located :=
  { importModule := r.importModule
    attribute? := Located.attribute?
    isCallable := Located.isCallable }

end Registry

end EngineHost
