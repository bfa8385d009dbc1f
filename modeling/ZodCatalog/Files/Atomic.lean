import ZodCatalog.Document.Json
import ZodCatalog.Files.System

/-!
Files replaced step by step: the content is written beside the file and moved into its place. Each
step may be refused for reasons that are not in the tree, such as a disk without room.
-/

namespace ZodCatalog

inductive SaveError
  | noFileName (path : String)
  | io (cause : IoError)
deriving Repr, DecidableEq

namespace FileSystem

/-- A change of the tree, and how it ended. -/
abbrev Operation := FileSystem → FileSystem × Except IoError Unit

namespace Operation

def unlessRefused (refused : Option IoError) (operation : Operation) : Operation := fun fs =>
  match refused with
  | none => operation fs
  | some e => (fs, .error e)

/-- Operations one after the other, up to the first that fails. -/
def inOrder : List Operation → Operation
  | [], fs => (fs, .ok ())
  | operation :: rest, fs =>
    match operation fs with
    | (next, .ok ()) => inOrder rest next
    | failed => failed

end Operation

/-- What the system refuses while a file is replaced. -/
structure Refusals where
  /-- Only so many parts of the way can be made. -/
  directories : Option (Nat × IoError) := none
  opening : Option IoError := none
  /-- Only so many bytes can be written. -/
  writing : Option (Nat × IoError) := none
  syncing : Option IoError := none
  moving : Option IoError := none
  /-- The directory of the file cannot be opened, or not be synced. -/
  syncingParent : Option IoError := none
deriving Repr, DecidableEq

/-- The characters of a text that are whole within its first bytes. -/
def fitting : Nat → List Char → List Char
  | _, [] => []
  | room, c :: s => if c.utf8Size ≤ room then c :: fitting (room - c.utf8Size) s else []

/-- Makes the directory that is to hold a path, and those above it. -/
def makeParent (path : String) (refused : Option (Nat × IoError)) : Operation := fun fs =>
  let parent := Path.parent path
  if parent.isEmpty then (fs, .ok ())
  else
    match refused with
    | none => fs.makeDirectories parent
    | some (count, e) =>
      if parent.toList.contains '\x00' then (fs, .error .nulInPath)
      else ((fs.makeWay (fs.start parent) ((Path.parts parent).take count)).1, .error e)

/-- Opens a file to be written, which empties one that is there. -/
def openEmpty (path : String) : Operation := fun fs => fs.write path ""

/-- Writes to a file that is open. -/
def fill (path content : String) (refused : Option (Nat × IoError)) : Operation := fun fs =>
  match refused with
  | none => fs.write path content
  | some (room, e) =>
    if content.utf8ByteSize ≤ room then fs.write path content
    else ((fs.write path (String.ofList (fitting room content.toList))).1, .error e)

/-- Puts on the disk what is in an open file. -/
def syncFile : Operation := fun fs => (fs, .ok ())

def move (source destination : String) : Operation := fun fs => fs.renameFile source destination

/-- Opens the directory that holds a path and puts its entries on the disk. -/
def syncParent (path : String) (refused : Option IoError) : Operation := fun fs =>
  let parent := Path.parent path
  if parent.isEmpty then (fs, .ok ())
  else
    match refused with
    | none => (fs, (fs.find? parent).map fun _ => ())
    | some e => (fs, .error e)

def temporaryPath? (path : String) : Option String :=
  (Path.name? path).map fun name => Path.withName path (name ++ ".tmp")

/-- The steps that put a content in the place of a file, by way of another file. -/
def replacement (temporary path content : String) (refused : Refusals) : List Operation :=
  [.unlessRefused refused.opening (openEmpty temporary),
   fill temporary content refused.writing,
   .unlessRefused refused.syncing syncFile,
   .unlessRefused refused.moving (move temporary path),
   syncParent path refused.syncingParent]

/-- Replaces a file, making the directories above it. -/
def save (fs : FileSystem) (path content : String) (refused : Refusals := {}) :
    FileSystem × Except SaveError Unit :=
  match makeParent path refused.directories fs with
  | (ready, .ok ()) =>
    match temporaryPath? path with
    | none => (ready, .error (.noFileName path))
    | some temporary =>
      let replaced := Operation.inOrder (replacement temporary path content refused) ready
      (replaced.1, replaced.2.mapError .io)
  | (failed, .error e) => (failed, .error (.io e))

/-- Replaces a file by the indented JSON text of a value. -/
def saveJson (fs : FileSystem) (path : String) (v : Document.Value) (refused : Refusals := {}) :
    FileSystem × Except SaveError Unit :=
  fs.save path (v.pretty 0 ++ "\n") refused

end FileSystem

end ZodCatalog
