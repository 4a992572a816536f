import EngineHost.Number.IntText
import EngineHost.Signal.Basic
import EngineHost.Text.Lines

/-!
# The working directory

A process works in a directory of a tree of files. A path is walked component by component, from the
root if it begins with a slash and from the working directory otherwise. A dot or an empty component
stays, two dots go up, though not above the root, and a name goes down, or along the path of a link.
The first component that cannot be walked decides the error. A directory that is open can also be
had by its number.
-/

namespace EngineHost

/-- A file, a directory with named entries, or a link, which leads along a path. -/
inductive FileNode where
  | file
  | directory (entries : List (String × FileNode))
  | link (path : String)
deriving Repr, Inhabited

namespace FileNode

/-- The entry of a name; only a directory has any. -/
def child? (name : String) : FileNode → Option FileNode
  | directory entries => (entries.find? (·.1 == name)).map (·.2)
  | _ => none

/-- The node that the names lead to. Links are not taken. -/
def follow? : FileNode → List String → Option FileNode
  | node, [] => some node
  | node, name :: rest => (node.child? name).bind (·.follow? rest)

/-- A tree that holds one node alone, under the given names. -/
def under (names : List String) (node : FileNode) : FileNode :=
  names.foldr (fun name node => directory [(name, node)]) node

end FileNode

/-- A directory, by the names that lead to it from the root. -/
structure WorkingDirectory where
  names : List String := []
deriving DecidableEq, Repr, Inhabited

namespace WorkingDirectory

def root : WorkingDirectory := {}

/-- The directory that processes start in. -/
def home : WorkingDirectory := { names := ["srv", "engines", "host", "session"] }

/-- One directory up; the root is above itself. -/
def parent (d : WorkingDirectory) : WorkingDirectory := { names := d.names.dropLast }

def child (d : WorkingDirectory) (name : String) : WorkingDirectory :=
  { names := d.names ++ [name] }

/-- The components that lead from one directory to another: up to where the two part, and down. -/
def wayBetween : List String → List String → List String
  | name :: names, name' :: names' =>
    if name = name' then wayBetween names names'
    else List.replicate (names.length + 1) ".." ++ name' :: names'
  | names, names' => List.replicate names.length ".." ++ names'

/-- The path of a directory as seen from the one that processes start in. -/
def display (d : WorkingDirectory) : String :=
  match wayBetween home.names d.names with
  | [] => "."
  | components => "/".intercalate components

end WorkingDirectory

/-- What is open under a number. -/
inductive OpenFile where
  | directory (d : WorkingDirectory)
  | other
deriving Repr, Inhabited

/-- What a process can get at: the tree of all files from the root, and what it has open. A process
may search every directory. -/
structure FileSystem where
  tree : FileNode
  opened : List (Nat × OpenFile)

namespace FileSystem

/-- A tree with given contents in the directory that processes start in, and nothing open but the
standard streams, which are no directories. -/
def holding (contents : FileNode) : FileSystem :=
  { tree := .under WorkingDirectory.home.names contents
    opened := [(0, .other), (1, .other), (2, .other)] }

def opened? (files : FileSystem) (n : Int) : Option OpenFile :=
  (files.opened.find? (·.1 == n)).map (·.2)

end FileSystem

/-- What the system can object to a change of directory. -/
inductive SystemError where
  | notFound
  | badDescriptor
  | badAddress
  | notDirectory
  | nameTooLong
  | tooManyLinks
deriving DecidableEq, Repr

namespace SystemError

def number : SystemError → Nat
  | notFound => 2
  | badDescriptor => 9
  | badAddress => 14
  | notDirectory => 20
  | nameTooLong => 36
  | tooManyLinks => 40

def message : SystemError → String
  | notFound => "No such file or directory"
  | badDescriptor => "Bad file descriptor"
  | badAddress => "Bad address"
  | notDirectory => "Not a directory"
  | nameTooLong => "File name too long"
  | tooManyLinks => "Too many levels of symbolic links"

def kind : SystemError → SignalKind
  | notFound => .fileNotFound
  | badDescriptor => .os
  | badAddress => .os
  | notDirectory => .notADirectory
  | nameTooLong => .os
  | tooManyLinks => .os

end SystemError

/-- Why the working directory cannot be changed to a target. -/
inductive DirectoryError where
  | system (reason : SystemError) (target : Value)
  | nullCharacter
  | descriptorTooGreat
  | descriptorTooSmall
  | notPath (kind : String)
deriving Repr

namespace DirectoryError

def signal : DirectoryError → Signal
  | system reason target =>
    .of reason.kind ("[Errno " ++ Number.intText reason.number ++ "] " ++ reason.message ++ ": " ++
      target.literal)
  | nullCharacter => .of .value "embedded null byte"
  | descriptorTooGreat => .of .overflow "fd is greater than maximum"
  | descriptorTooSmall => .of .overflow "fd is less than minimum"
  | notPath kind =>
    .of .type ("chdir: path should be string, bytes, os.PathLike or integer, not " ++ kind)

end DirectoryError

namespace WorkingDirectory

def maxComponentBytes : Nat := 255

/-- The first number of bytes that is too many for a path. -/
def pathByteLimit : Nat := 4096

/-- How many links are taken in one walk. -/
def maxLinks : Nat := 40

/-- Where one component leads. -/
inductive Passage where
  | directory (d : WorkingDirectory)
  /-- Along the path of a link. -/
  | link (path : String)

def enter (tree : FileNode) (d : WorkingDirectory) (name : String) : Except SystemError Passage :=
  if name.utf8ByteSize > maxComponentBytes then .error .nameTooLong
  else
    match tree.follow? (d.child name).names with
    | none => .error .notFound
    | some .file => .error .notDirectory
    | some (.directory _) => .ok (.directory (d.child name))
    | some (.link path) => .ok (.link path)

def step (tree : FileNode) (d : WorkingDirectory) (component : String) :
    Except SystemError Passage :=
  if component = "" || component = "." then .ok (.directory d)
  else if component = ".." then .ok (.directory d.parent)
  else d.enter tree component

/-- Walk along components up to the first link, where `jump` goes on. -/
def walkWith (tree : FileNode)
    (jump : WorkingDirectory → String → List String → Except SystemError WorkingDirectory) :
    WorkingDirectory → List String → Except SystemError WorkingDirectory
  | d, [] => .ok d
  | d, component :: rest =>
    match d.step tree component with
    | .error e => .error e
    | .ok (.directory d') => walkWith tree jump d' rest
    | .ok (.link path) => jump d path rest

def components (path : String) : List String :=
  (Text.cut (· == '/') path.toList).map String.ofList

/-- Where the walk along a path begins. -/
def base (d : WorkingDirectory) (path : String) : WorkingDirectory :=
  if path.toList.head? = some '/' then root else d

/-- Walk along components and take so many links at most. The path of a link is walked from the
directory that the link is in, and after it what is left of the components. -/
def walk (tree : FileNode) : Nat → WorkingDirectory → List String →
    Except SystemError WorkingDirectory
  | 0 => walkWith tree fun _ _ _ => .error .tooManyLinks
  | links + 1 => walkWith tree fun d path rest =>
      walk tree links (d.base path) (components path ++ rest)

def followText (tree : FileNode) (d : WorkingDirectory) (path : String) :
    Except SystemError WorkingDirectory :=
  if path.isEmpty then .error .notFound
  else if path.utf8ByteSize ≥ pathByteLimit then .error .nameTooLong
  else walk tree maxLinks (d.base path) (components path)

/-- The greatest number that an open file may have; the least one is below zero by one more. -/
def maxDescriptor : Int := 2147483647

/-- The directory that is open under a number. Minus one is the number of no file, so that neither a
file nor a path is given. -/
def openedDirectory (files : FileSystem) (n : Int) : Except SystemError WorkingDirectory :=
  if n = -1 then .error .badAddress
  else
    match files.opened? n with
    | none => .error .badDescriptor
    | some .other => .error .notDirectory
    | some (.directory d) => .ok d

/-- The directory under a number; `target` is the number as it was given. -/
def followNumber (files : FileSystem) (n : Int) (target : Value) :
    Except DirectoryError WorkingDirectory :=
  if n > maxDescriptor then .error .descriptorTooGreat
  else if n < -maxDescriptor - 1 then .error .descriptorTooSmall
  else (openedDirectory files n).mapError (.system · target)

/-- The directory that a value leads to: a text is a path, and a truth value or an integer is the
number of an open file. -/
def follow (files : FileSystem) (d : WorkingDirectory) (target : Value) :
    Except DirectoryError WorkingDirectory :=
  match target with
  | .text path =>
    if path.toList.contains '\x00' then .error .nullCharacter
    else (d.followText files.tree path).mapError (.system · target)
  | .int n => followNumber files n target
  | .bool b => followNumber files (if b then 1 else 0) target
  | v => .error (.notPath v.kindName)

end WorkingDirectory

end EngineHost
