import ZodCatalog.CommandLine.Command
import ZodCatalog.Connection.Redaction
import ZodCatalog.Document.Json
import ZodCatalog.Generator.Run

/-!
What a run logs. Connections are described without their secrets.
-/

namespace ZodCatalog.CommandLine

open Document

inductive LogLevel
  | info
  | error
deriving Repr, DecidableEq

def LogLevel.name : LogLevel → String
  | info => "INFO"
  | error => "ERROR"

structure LogEvent where
  level : LogLevel
  fields : Fields
deriving Repr

/-- What tells one run from another. -/
structure RunStamp where
  runId : String
  durationMs : Nat
deriving Repr

namespace LogEvent

def toValue (e : LogEvent) : Value :=
  .record [("level", .text e.level.name), ("fields", .record e.fields)]

def fieldText : String × Value → String
  | (key, .text s) => key ++ "=" ++ s
  | (key, v) => key ++ "=" ++ v.compact

def line (format : LogFormat) (e : LogEvent) : String :=
  match format with
  | .json => e.toValue.compact ++ "\n"
  | .text => e.level.name ++ " " ++ String.intercalate " " (e.fields.map fieldText) ++ "\n"

def runStarted (stamp : RunStamp) (c : GeneratorConfig) (dryRun : Bool) : LogEvent where
  level := .info
  fields :=
    [("event", .text "run_started"), ("run_id", .text stamp.runId), ("schema", .text c.schema),
     ("connection", .text c.connection.describe), ("dry_run", .bool dryRun)]

def ofProgress (event : ProgressEvent) : LogEvent where
  level := .info
  fields :=
    match event with
    | .connecting =>
      [("message", .text "connecting to database"), ("event", .text "connecting")]
    | .fetchingSchema =>
      [("message", .text "reading catalog"), ("event", .text "fetching_schema")]
    | .generating tables =>
      [("message", .text "generating schemas"), ("event", .text "generating"),
       ("tables", .int tables)]
    | .done => [("message", .text "generation finished"), ("event", .text "done")]

def dryRunFile (file content : String) : LogEvent where
  level := .info
  fields :=
    [("event", .text "dry_run_file"), ("file", .text file), ("bytes", .int content.utf8ByteSize)]

def reportWritten (path : String) : LogEvent where
  level := .info
  fields := [("event", .text "report_written"), ("path", .text path)]

def runFailed (stamp : RunStamp) (e : Error) : LogEvent where
  level := .error
  fields :=
    [("event", .text "run_finished"), ("status", .text "failed"), ("error", .text e.fullMessage),
     ("duration_ms", .int stamp.durationMs)]

def runSucceeded (stamp : RunStamp) (c : GeneratorConfig) (r : GenerationReport) : LogEvent where
  level := .info
  fields :=
    [("event", .text "run_finished"), ("status", .text "success"),
     ("tables", .int r.tables.length), ("out_dir", .text c.outputDir),
     ("duration_ms", .int stamp.durationMs)]

end LogEvent

end ZodCatalog.CommandLine
