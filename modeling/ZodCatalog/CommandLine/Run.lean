import ZodCatalog.CommandLine.Error
import ZodCatalog.CommandLine.Help
import ZodCatalog.CommandLine.Log
import ZodCatalog.Config.File
import ZodCatalog.Config.Shape
import ZodCatalog.Generator.Directory
import ZodCatalog.Generator.Document

/-!
Whole commands: from arguments and a file system to what is printed, the exit code and the file
system afterwards.
-/

namespace ZodCatalog.CommandLine

open Document

structure Outcome where
  exit : Nat
  output : String := ""
  error : Option CommandError := none
  log : List LogEvent := []
  system : FileSystem

def Outcome.failed (fs : FileSystem) (e : CommandError) : Outcome where
  exit := 1
  error := some e
  system := fs

/-- The configuration in a file. Without a path the default file counts, if it is there. -/
def loadConfig (fs : FileSystem) (path : Option String) : Except CommandError GeneratorConfig :=
  if path.isNone && !fs.exists? defaultConfigPath then .ok {}
  else
    let path := path.getD defaultConfigPath
    match fs.read path with
    | .error cause => .error (.unreadableConfig path cause)
    | .ok text =>
      match GeneratorConfig.ofToml? text with
      | some config => .ok config
      | none => .error (.malformedConfig path)

/-- Writes the defaults to a new file, or to any file if forced. -/
def writeDefaults (fs : FileSystem) (path : String) (force : Bool) : Outcome :=
  if fs.exists? path && !force then .failed fs (.existingConfig path)
  else
    match fs.save path ({} : GeneratorConfig).toToml with
    | (fs, .ok ()) => { exit := 0, output := "wrote " ++ path ++ "\n", system := fs }
    | (fs, .error e) => .failed fs (.ofSave e)

/-- How a run ended, the file system after it and the events it logged. -/
structure Finished where
  result : Except Error GenerationReport
  system : FileSystem
  log : List LogEvent

def progressLog (calls : List GeneratorCall) : List LogEvent :=
  (calls.filterMap GeneratorCall.event?).map LogEvent.ofProgress

/-- A run that writes nothing and logs the files it would write. -/
def dryRun (config : GeneratorConfig) (source : SchemaSource) (fs : FileSystem) : Finished :=
  let t := Generator.run config source {} MemoryStore.writer {}
  let files := stableSort (fun f g => decide (f.1 ≤ g.1)) t.state.files
  { result := t.outcome
    system := fs
    log := progressLog t.calls ++
      files.map fun (name, content) => LogEvent.dryRunFile name content }

def realRun (config : GeneratorConfig) (source : SchemaSource) (fs : FileSystem) : Finished :=
  let writer := DirectoryStore.writer config.outputDir config.cleanOutput
  let t := Generator.run config source {} writer { system := fs }
  { result := t.outcome, system := t.state.system, log := progressLog t.calls }

def runReport (stamp : RunStamp) (config : GeneratorConfig) (dry : Bool) (r : GenerationReport) :
    Value :=
  .record
    ([("run_id", .text stamp.runId), ("connection", .text config.connection.describe),
      ("dry_run", .bool dry), ("duration_ms", .int stamp.durationMs)] ++ r.toFields)

/-- Puts the events into the log file, if there is one. -/
def keepLog (o : GenerateOptions) (out : Outcome) : Outcome :=
  match o.logPath with
  | none => out
  | some path =>
    let text := String.join (out.log.map (LogEvent.line o.logFormat))
    { out with system := (out.system.append path text).1 }

/-- What follows a run: the report, if one is asked for, and the last event. -/
def conclude (stamp : RunStamp) (config : GeneratorConfig) (o : GenerateOptions)
    (started : LogEvent) (f : Finished) : Outcome :=
  let log := started :: f.log
  match f.result with
  | .error e =>
    { Outcome.failed f.system (.core e) with log := log ++ [.runFailed stamp e] }
  | .ok r =>
    let saved : FileSystem × Except SaveError Unit := match o.reportPath with
      | none => (f.system, .ok ())
      | some path => f.system.saveJson path (runReport stamp config o.dryRun r)
    let written := o.reportPath.toList.map LogEvent.reportWritten
    match saved with
    | (fs, .error e) => { Outcome.failed fs (.ofSave e) with log }
    | (fs, .ok ()) =>
      { exit := 0, system := fs
        log := log ++ written ++ [LogEvent.runSucceeded stamp config r] }

def generate (stamp : RunStamp) (source : SchemaSource) (fs : FileSystem) (o : GenerateOptions) :
    Outcome :=
  match loadConfig fs o.configPath with
  | .error e => .failed fs e
  | .ok config =>
    let config := OverrideFlag.apply o.overrides config
    match o.logPath.elim (fs, .ok ()) fun path => fs.append path "" with
    | (fs, .error e) => .failed fs (.io e)
    | (fs, .ok ()) =>
      let finished := if o.dryRun then dryRun config source fs else realRun config source fs
      keepLog o (conclude stamp config o (.runStarted stamp config o.dryRun) finished)

/-- What arguments that are no command come to. -/
def refused (fs : FileSystem) (args : List String) : UsageError → Outcome
  | .help => { exit := 0, output := (HelpTopic.ofArguments args).text, system := fs }
  | .version => { exit := 0, output := versionText, system := fs }
  | _ => { exit := 2, system := fs }

def run (stamp : RunStamp) (source : SchemaSource) (fs : FileSystem) (args : List String) :
    Outcome :=
  match Command.ofArguments? args with
  | .error e => refused fs args e
  | .ok .configSchema =>
    { exit := 0, output := GeneratorConfig.schemaDocument.pretty 0 ++ "\n", system := fs }
  | .ok (.defaults path force) => writeDefaults fs path force
  | .ok (.generate options) => generate stamp source fs options

end ZodCatalog.CommandLine
