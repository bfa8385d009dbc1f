import ZodCatalog.CommandLine.Run

/-!
The program: takes what the command names from the disk, runs the command on it, and puts what
changed back.
-/

namespace ZodCatalog.CommandLine

/-- The paths that a command may read or write. -/
def Command.paths : Command → List String
  | generate o => o.configPath.getD defaultConfigPath :: o.logPath.toList
  | configSchema => []
  | defaults path _ => path :: (FileSystem.temporaryPath? path).toList

/-- The locations that a path passes, from `here` on. -/
def passed (here : Location) : List String → List Location
  | [] => []
  | part :: rest =>
    let next := if part = "." then here else if part = ".." then here.dropLast else here ++ [part]
    next :: passed next rest

def pathOf (place : Location) : String := "/" ++ String.intercalate "/" place

/-- What the disk holds at a location. -/
def nodeAt (place : Location) : IO (Option Node) := do
  let path := (← IO.currentDir) / pathOf place
  if ← path.isDir then return some .directory
  if ← path.pathExists then return some (.file (← IO.FS.readFile path))
  return none

/-- The part of the disk that the paths pass. -/
def snapshot (paths : List String) : IO FileSystem := do
  let home := Path.parts (toString (← IO.currentDir))
  let mut fs : FileSystem := { home }
  for path in paths do
    let start := if Path.isAbsolute path then [] else home
    for place in passed [] start ++ passed start (Path.parts path) do
      if let some node ← nodeAt place then fs := fs.put place node
  return fs

/-- Puts a node on the disk; a file takes its place in one step. -/
def realize (place : Location) : Node → IO Unit
  | .directory => do IO.FS.createDirAll ((← IO.currentDir) / pathOf place)
  | .file content => do
    let path := (← IO.currentDir) / pathOf place
    let beside := (← IO.currentDir) / (pathOf place ++ ".new")
    IO.FS.writeFile beside content
    IO.FS.rename beside path

/-- Removes files that are gone, and puts nodes that are new or changed, the upper ones first. -/
def keepChanges (before after : FileSystem) : IO Unit := do
  for (place, _) in before.nodes do
    if (after.node? place).isNone then IO.FS.removeFile ((← IO.currentDir) / pathOf place)
  let changed := after.nodes.filter fun (place, node) => before.node? place != some node
  for (place, node) in stableSort (fun a b => decide (a.1.length ≤ b.1.length)) changed do
    realize place node

def newStamp : IO RunStamp := do
  return ⟨String.ofList (Nat.toDigits 16 (← IO.rand 0 18446744073709551615)), 0⟩

def perform (args : List String) : IO UInt32 := do
  let command := Command.ofArguments? args
  let fs ← snapshot (command.toOption.elim [] Command.paths)
  let out := run (← newStamp) SchemaSource.unreachable fs args
  keepChanges fs out.system
  IO.print out.output
  if let .ok (.generate o) := command then
    if o.logPath.isNone then
      out.log.forM fun e => IO.eprint (e.line o.logFormat)
  if let some e := out.error then IO.eprintln e.report
  return UInt32.ofNat out.exit

end ZodCatalog.CommandLine

def main (args : List String) : IO UInt32 := ZodCatalog.CommandLine.perform args
