import ZodCatalog.Files.System
import ZodCatalog.Generator.Writer

/-!
The writer for a directory. Preparing makes the directory and, if asked, removes the modules of
an earlier run: files with the ending of modules that are directly in it.
-/

namespace ZodCatalog

/-- The file system with the paths written so far. -/
structure DirectoryStore where
  system : FileSystem
  written : List String := []
deriving Repr

namespace DirectoryStore

/-- A result of the file system as a result of the writer. -/
def settle (s : DirectoryStore) (r : FileSystem × Except IoError Unit) :
    DirectoryStore × Except Error Unit :=
  ({ s with system := r.1 }, r.2.mapError .io)

def writeFile (directory name content : String) (s : DirectoryStore) :
    DirectoryStore × Except Error Unit :=
  let path := Path.join directory name
  match s.system.write path content with
  | (system, .ok ()) => ({ system, written := s.written ++ [path] }, .ok ())
  | failed => s.settle failed

def prepare (directory : String) (clean : Bool) (s : DirectoryStore) :
    DirectoryStore × Except Error Unit :=
  match s.system.makeDirectories directory with
  | (system, .ok ()) =>
    if clean then s.settle (system.removeEnding directory "ts") else ({ s with system }, .ok ())
  | failed => s.settle failed

def writer (directory : String) (clean : Bool) : Writer DirectoryStore where
  prepare := prepare directory clean
  writeTable r := writeFile directory r.fileName r.content
  writeIndex content := writeFile directory indexFile content

end DirectoryStore

end ZodCatalog
