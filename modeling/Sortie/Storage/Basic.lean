namespace Sortie

/-- The names of the directories on the way from the root, and of the entry itself. -/
abbrev Location := List String

/-- A path as it is written: the texts between its slashes. -/
abbrev Path := List String

namespace Path

/-- The path that a text with slashes names. -/
def ofText (text : String) : Path := (text.toList.splitOn '/').map String.ofList

/-- The path as a text with slashes. -/
def text (path : Path) : String := "/".intercalate path

/-- The path whose text is longer by an extension. -/
def extend (extension : String) : Path → Path
  | [] => [extension]
  | [name] => [name ++ extension]
  | directory :: rest => directory :: extend extension rest

/-- Whether a path leads from the root, which is so if it starts with a slash. -/
def isAbsolute : Path → Bool
  | "" :: _ :: _ => true
  | _ => false

/-- The path without its last name. Names that lead nowhere do not count. -/
def parent (path : Path) : Path :=
  let names := (path.filter fun name => name != "" && name != ".").dropLast
  if path.isAbsolute then "" :: "" :: names else names

/-- The directory in whose list of names the path's last one is looked up. -/
def holder (path : Path) : Path := path.dropLast ++ [""]

/-- The path without slashes at its end. -/
def bare (path : Path) : Path := (path.reverse.dropWhile fun name => name == "").reverse

/-- The path and all that lead to it, the shortest first. -/
def steps : Path → List Path
  | [] => []
  | name :: rest => [name] :: (steps rest).map (name :: ·)

/-- The most bytes of a path. -/
def lengthLimit : Nat := 4095

/-- The most bytes of a name. -/
def nameLimit : Nat := 255

/-- Whether a name stays in a directory or leads out of it, and is no name of an entry in it. -/
def isMove (name : String) : Bool := name == "" || name == "." || name == ".."

/-- Whether a path can be followed at all. -/
def isUsable (path : Path) : Bool :=
  decide (path.text.utf8ByteSize ≤ lengthLimit) && !path.text.toList.contains '\x00'

/-- Where a name leads from a directory. -/
def follow (here : Location) (name : String) : Location :=
  if name = ".." then here.dropLast else if isMove name then here else here ++ [name]

end Path

inductive FileNode where
  | directory
  | file (content : ByteArray)

/-- Why an operation on files fails. -/
inductive FileFault where
  /-- There is nothing at the path. -/
  | missing
  /-- What is there does not allow the operation. -/
  | refused
  deriving DecidableEq, Repr

/-- The files and directories. Those that lead to `home` are always there. A path is followed name
by name through directories that must be there. An operation that fails leaves the tree as it was,
except that directories made on the way stay. -/
structure Storage where
  entries : List (Location × FileNode) := []
  /-- Where paths start that are not absolute. -/
  home : Location := ["home"]

namespace Storage

def node? (storage : Storage) (location : Location) : Option FileNode :=
  if location.isPrefixOf storage.home then some .directory
  else (storage.entries.find? fun entry => entry.1 == location).map Prod.snd

def isDirectory (storage : Storage) (location : Location) : Bool :=
  match storage.node? location with
  | some .directory => true
  | _ => false

def erase (storage : Storage) (location : Location) : Storage :=
  { storage with entries := storage.entries.filter fun entry => entry.1 != location }

def put (storage : Storage) (location : Location) (node : FileNode) : Storage :=
  { storage with entries := (storage.erase location).entries ++ [(location, node)] }

/-- What is below `home`, by the paths from there. No operation of the program asks for it; it is
for those who look at the tree from outside. -/
def listing (storage : Storage) : List (Path × FileNode) :=
  storage.entries.filterMap fun (location, node) =>
    if storage.home.isPrefixOf location then some (location.drop storage.home.length, node)
    else none

def start (storage : Storage) (path : Path) : Location :=
  if path.isAbsolute then [] else storage.home

/-- Where names lead from an entry. Each is looked up in a directory. -/
def walk (storage : Storage) : List String → Location → Except FileFault Location
  | [], here => .ok here
  | name :: rest, here =>
    if ¬ storage.isDirectory here ∨ Path.nameLimit < name.utf8ByteSize then .error .refused
    else
      let next := Path.follow here name
      if (storage.node? next).isSome then storage.walk rest next else .error .missing

/-- Where the entry of a path is. -/
def find (storage : Storage) (path : Path) : Except FileFault Location :=
  if path.isUsable then storage.walk path (storage.start path) else .error .refused

/-- Where the entry of a path is or would be. Its directory must be there. -/
def place (storage : Storage) (path : Path) : Except FileFault Location :=
  match path.getLast? with
  | none => .error .refused
  | some name =>
    if Path.isMove name ∨ Path.nameLimit < name.utf8ByteSize ∨ ¬ path.isUsable then
      .error .refused
    else (storage.find path.holder).map fun directory => directory ++ [name]

def isThere (storage : Storage) (path : Path) : Bool := (storage.find path).isOk

/-- The content of a file. -/
def read (storage : Storage) (path : Path) : Except FileFault ByteArray := do
  match storage.node? (← storage.find path) with
  | some (.file content) => return content
  | _ => .error .refused

/-- Makes a directory unless it is there. -/
def makeDirectory (storage : Storage) (path : Path) : Except FileFault Storage :=
  match storage.find path with
  | .ok location => if storage.isDirectory location then .ok storage else .error .refused
  | .error .refused => .error .refused
  | .error .missing => (storage.place path.bare).map fun location => storage.put location .directory

/-- Makes directories in turn, up to the first that cannot be made. -/
def makeInTurn : List Path → Storage → Option FileFault × Storage
  | [], storage => (none, storage)
  | path :: rest, storage =>
    match storage.makeDirectory path with
    | .ok storage => makeInTurn rest storage
    | .error fault => (some fault, storage)

/-- Makes a directory and those that lead to it. -/
def makeDirectories (storage : Storage) (path : Path) : Option FileFault × Storage :=
  if path.isUsable then makeInTurn (path.parent.steps ++ [path]) storage
  else (some .refused, storage)

/-- Writes a file into a directory that is there. -/
def write (storage : Storage) (path : Path) (content : ByteArray) : Except FileFault Storage := do
  let location ← storage.place path
  if storage.isDirectory location then .error .refused
  else return storage.put location (.file content)

/-- Removes a file. The program never does; it is for those who change the tree from outside. -/
def remove (storage : Storage) (path : Path) : Except FileFault Storage := do
  let location ← storage.find path
  if storage.isDirectory location then .error .refused else return storage.erase location

/-- Whether the first location leads to the second one, which is longer. -/
def leadsTo (location other : Location) : Bool :=
  location.isPrefixOf other && location != other

/-- Whether a directory may take a place. It may replace an empty one. -/
def admitsDirectory (storage : Storage) (source target : Location) : Bool :=
  !source.isPrefixOf storage.home && !target.isPrefixOf storage.home && !leadsTo source target &&
    match storage.node? target with
    | none => true
    | some (.file _) => false
    | some .directory => !storage.entries.any fun entry => leadsTo target entry.1

/-- The location that an entry has after `source` and all below it moved to `target`. -/
def moved (source target location : Location) : Location :=
  if source.isPrefixOf location then target ++ location.drop source.length else location

/-- Moves an entry to another place, where a file replaces a file and a directory an empty one. -/
def move (storage : Storage) (source target : Location) : Except FileFault Storage :=
  match storage.node? source with
  | none => .error .missing
  | some node =>
    if source = target then .ok storage
    else
      match node with
      | .file content =>
        if storage.isDirectory target then .error .refused
        else .ok ((storage.erase source).put target (.file content))
      | .directory =>
        if ¬ storage.admitsDirectory source target then .error .refused
        else
          .ok { storage with
            entries := (storage.erase target).entries.map fun entry =>
              (moved source target entry.1, entry.2) }

def rename (storage : Storage) (source target : Path) : Except FileFault Storage := do
  let source ← storage.place source
  let target ← storage.place target
  storage.move source target

/-- Renames what is there, if anything is. -/
def setAside (storage : Storage) (source target : Path) : Except FileFault Storage :=
  if storage.isThere source then storage.rename source target else .ok storage

end Storage

/-- One change of a tree of files. -/
inductive FileOperation where
  | makeDirectories (path : Path)
  | write (path : Path) (content : ByteArray)
  | setAside (source target : Path)
  | rename (source target : Path)

namespace FileOperation

/-- The tree that a change leaves, and its fault, if there is one. -/
def settle (storage : Storage) : Except FileFault Storage → Option FileFault × Storage
  | .ok storage => (none, storage)
  | .error fault => (some fault, storage)

def run (storage : Storage) : FileOperation → Option FileFault × Storage
  | makeDirectories path => storage.makeDirectories path
  | write path content => settle storage (storage.write path content)
  | setAside source target => settle storage (storage.setAside source target)
  | rename source target => settle storage (storage.rename source target)

/-- Operations in turn, up to the first that fails: that fault, if there is one, and the tree they
leave. -/
def runAll : List FileOperation → Storage → Option FileFault × Storage
  | [], storage => (none, storage)
  | operation :: rest, storage =>
    match operation.run storage with
    | (none, storage) => runAll rest storage
    | (some fault, storage) => (some fault, storage)

end FileOperation

end Sortie
