import ZodCatalog.Entries
import ZodCatalog.Module.Text

/-!
Where a run puts its modules. A writer is prepared before the first module and gets the index
after the last; any of its calls may fail and leave the state changed.
-/

namespace ZodCatalog

structure Writer (σ : Type) where
  prepare : σ → σ × Except Error Unit
  writeTable : RenderedModule → σ → σ × Except Error Unit
  writeIndex : String → σ → σ × Except Error Unit

/-- The name of the module that exports all others. -/
def indexFile : String := "index.ts"

inductive WriterStep
  | prepare
  | writeTable
  | writeIndex
deriving Repr, DecidableEq

namespace WriterStep

def all : List WriterStep := [prepare, writeTable, writeIndex]

def name : WriterStep → String
  | prepare => "prepare"
  | writeTable => "write_table"
  | writeIndex => "write_index"

end WriterStep

namespace Writer

/-- The writer with one of its calls refused. -/
def refusing {σ : Type} (w : Writer σ) (step : WriterStep) : Writer σ :=
  let refuse (s : σ) : σ × Except Error Unit := (s, .error (.io (.refused step.name)))
  match step with
  | .prepare => { w with prepare := refuse }
  | .writeTable => { w with writeTable := fun _ => refuse }
  | .writeIndex => { w with writeIndex := fun _ => refuse }

end Writer

/-- Modules kept in memory by file name. -/
structure MemoryStore where
  files : List (String × String) := []
  prepared : Bool := false
deriving Repr, DecidableEq

namespace MemoryStore

def file? (s : MemoryStore) (name : String) : Option String := s.files.lookup name

def put (s : MemoryStore) (name content : String) : MemoryStore :=
  { s with files := Entries.put name content s.files }

theorem file?_put_self (s : MemoryStore) (name content : String) :
    (s.put name content).file? name = some content := Entries.lookup_put_self ..

theorem file?_put_of_ne (s : MemoryStore) {name other : String} (h : other ≠ name)
    (content : String) : (s.put name content).file? other = s.file? other :=
  Entries.lookup_put_of_ne h ..

/-- Preparing forgets all modules. -/
def writer : Writer MemoryStore where
  prepare _ := (⟨[], true⟩, .ok ())
  writeTable r s := (s.put r.fileName r.content, .ok ())
  writeIndex content s := (s.put indexFile content, .ok ())

end MemoryStore

end ZodCatalog
