import ZodCatalog.Entries
import ZodCatalog.Error
import ZodCatalog.Files.Path

/-!
File systems as values. Each operation gives the tree after it and how it ended; one that fails
leaves in place what it did before. Main statements: what is at each place once a node was put or
erased.
-/

namespace ZodCatalog

/-- The parts of the way from the root. -/
abbrev Location := List String

inductive Node
  | directory
  | file (content : String)
deriving Repr, DecidableEq

/-- The nodes below the root, each by its location. -/
structure FileSystem where
  nodes : List (Location × Node) := []
  /-- Where relative paths start. -/
  home : Location := []
deriving Repr

namespace FileSystem

/-- What is at a location; the root is always there. -/
def node? (fs : FileSystem) (place : Location) : Option Node :=
  if place = [] then some .directory else fs.nodes.lookup place

def put (fs : FileSystem) (place : Location) (node : Node) : FileSystem :=
  { fs with nodes := Entries.put place node fs.nodes }

def erase (fs : FileSystem) (place : Location) : FileSystem :=
  { fs with nodes := Entries.erase place fs.nodes }

@[simp] theorem node?_nil (fs : FileSystem) : fs.node? [] = some .directory := rfl

theorem node?_put_self (fs : FileSystem) {place : Location} (h : place ≠ []) (node : Node) :
    (fs.put place node).node? place = some node := by
  simp [node?, put, h, Entries.lookup_put_self]

theorem node?_put_of_ne (fs : FileSystem) {place other : Location} (h : other ≠ place)
    (node : Node) : (fs.put place node).node? other = fs.node? other := by
  simp [node?, put, Entries.lookup_put_of_ne h]

theorem put_put (fs : FileSystem) (place : Location) (first second : Node) :
    (fs.put place first).put place second = fs.put place second :=
  congrArg (FileSystem.mk · fs.home) (Entries.put_put place first second fs.nodes)

theorem node?_erase_self (fs : FileSystem) {place : Location} (h : place ≠ []) :
    (fs.erase place).node? place = none := by
  simp [node?, erase, h, Entries.lookup_erase_self]

theorem node?_erase_of_ne (fs : FileSystem) {place other : Location} (h : other ≠ place) :
    (fs.erase place).node? other = fs.node? other := by
  simp [node?, erase, Entries.lookup_erase_of_ne h]

/-- The longest name, in bytes. -/
def nameLimit : Nat := 255

/-- One step along a path, which has to end in a directory. -/
def enter (fs : FileSystem) (here : Location) (part : String) : Except IoError Location :=
  if part = "." then .ok here
  else if part = ".." then .ok here.dropLast
  else if nameLimit < part.utf8ByteSize then .error .nameTooLong
  else
    match fs.node? (here ++ [part]) with
    | some .directory => .ok (here ++ [part])
    | some (.file _) => .error .notADirectory
    | none => .error .notFound

def start (fs : FileSystem) (path : String) : Location :=
  if Path.isAbsolute path then [] else fs.home

/-- Where a path leads once all parts but the last are followed. -/
inductive Target
  | directory (place : Location)
  /-- A name in a directory that is there; `slashed` if slashes follow the name. -/
  | child (parent : Location) (name : String) (slashed : Bool)
deriving Repr, DecidableEq

def target (fs : FileSystem) (path : String) : Except IoError Target := do
  if path.isEmpty then throw .notFound
  if path.toList.contains '\x00' then throw .nulInPath
  match (Path.parts path).getLast? with
  | none => return .directory []
  | some last =>
    let parent ← (Path.parts path).dropLast.foldlM fs.enter (fs.start path)
    if last = "." then return .directory parent
    else if last = ".." then return .directory parent.dropLast
    else if nameLimit < last.utf8ByteSize then throw .nameTooLong
    else return .child parent last (Path.endsInSlash path)

/-- What a path leads to. -/
def find? (fs : FileSystem) (path : String) : Except IoError Node := do
  match ← fs.target path with
  | .directory _ => return .directory
  | .child parent name slashed =>
    match fs.node? (parent ++ [name]) with
    | some .directory => return .directory
    | some (.file content) => if slashed then throw .notADirectory else return .file content
    | none => throw .notFound

def exists? (fs : FileSystem) (path : String) : Bool := (fs.find? path).isOk

def read (fs : FileSystem) (path : String) : Except IoError String := do
  match ← fs.find? path with
  | .directory => throw .isADirectory
  | .file content => return content

/-- The place for a file of that path, which may be there already. -/
def filePlace (fs : FileSystem) (path : String) : Except IoError Location := do
  match ← fs.target path with
  | .directory _ => throw .isADirectory
  | .child parent name slashed =>
    if slashed || fs.node? (parent ++ [name]) == some .directory then throw .isADirectory
    else return parent ++ [name]

/-- Makes a file of that content, in place of one that is there. -/
def write (fs : FileSystem) (path content : String) : FileSystem × Except IoError Unit :=
  match fs.filePlace path with
  | .ok place => (fs.put place (.file content), .ok ())
  | .error e => (fs, .error e)

/-- Adds to the end of a file, which is made if it is not there. -/
def append (fs : FileSystem) (path content : String) : FileSystem × Except IoError Unit :=
  match fs.filePlace path with
  | .ok place =>
    let before := match fs.node? place with
      | some (.file text) => text
      | _ => ""
    (fs.put place (.file (before ++ content)), .ok ())
  | .error e => (fs, .error e)

/-- Follows a path and makes the directories that are missing on the way. -/
def makeWay (fs : FileSystem) (here : Location) : List String → FileSystem × Except IoError Unit
  | [] => (fs, .ok ())
  | part :: rest =>
    match fs.enter here part with
    | .ok next => makeWay fs next rest
    | .error .notFound =>
      makeWay (fs.put (here ++ [part]) .directory) (here ++ [part]) rest
    | .error .notADirectory =>
      (fs, .error (if rest.isEmpty then .alreadyExists else .notADirectory))
    | .error e => (fs, .error e)

/-- Makes a directory and those above it; nothing happens to directories that are there. -/
def makeDirectories (fs : FileSystem) (path : String) : FileSystem × Except IoError Unit :=
  if path.toList.contains '\x00' then (fs, .error .nulInPath)
  else fs.makeWay (fs.start path) (Path.parts path)

/-- Moves a file to another path, in place of a file that is there. -/
def renameFile (fs : FileSystem) (source destination : String) :
    FileSystem × Except IoError Unit :=
  match fs.filePlace source, fs.target destination with
  | .error e, _ => (fs, .error e)
  | _, .error e => (fs, .error e)
  | .ok _, .ok (.directory _) => (fs, .error .busy)
  | .ok place, .ok (.child parent name slashed) =>
    match fs.node? place, fs.node? (parent ++ [name]) with
    | none, _ => (fs, .error .notFound)
    | some node, there =>
      if slashed then (fs, .error .notADirectory)
      else if there = some .directory then (fs, .error .isADirectory)
      else ((fs.erase place).put (parent ++ [name]) node, .ok ())

/-- Whether a node is a file directly in a directory whose name has the ending. -/
def hasEndingIn (directory : Location) (ending : String) : Location × Node → Bool
  | (place, .file _) =>
    place.dropLast == directory && (place.getLast?.bind Path.extension?) == some ending
  | (_, .directory) => false

/-- Removes the files directly in a directory whose names have the ending. -/
def removeEnding (fs : FileSystem) (path ending : String) : FileSystem × Except IoError Unit :=
  match fs.target path with
  | .error e => (fs, .error e)
  | .ok t =>
    let directory := match t with
      | .directory place => place
      | .child parent name _ => parent ++ [name]
    match fs.node? directory with
    | some .directory =>
      ({ fs with nodes := fs.nodes.filter (!hasEndingIn directory ending ·) }, .ok ())
    | some (.file _) => (fs, .error .notADirectory)
    | none => (fs, .error .notFound)

end FileSystem

end ZodCatalog
