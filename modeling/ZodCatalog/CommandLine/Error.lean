import ZodCatalog.Error
import ZodCatalog.Files.Atomic
import ZodCatalog.Text.Visible

/-!
Errors that end a command, and the line that reports them.
-/

namespace ZodCatalog

open Text

/-- An error of the file system with its number and kind. -/
def IoError.report (e : IoError) : String :=
  match e.code? with
  | some code =>
    "Os \x7b code: " ++ toString code ++ ", kind: " ++ e.kind ++ ", message: " ++
      inQuotes e.description ++ " \x7d"
  | none => "Error \x7b kind: " ++ e.kind ++ ", message: " ++ inQuotes e.description ++ " \x7d"

def Error.report : Error → String
  | .configuration cause => "Configuration(" ++ inQuotes cause.fullMessage ++ ")"
  | .connection detail => "Connection(" ++ inQuotes detail ++ ")"
  | .catalog detail => "Catalog(" ++ inQuotes detail ++ ")"
  | .hook detail => "Hook(" ++ inQuotes detail ++ ")"
  | .noTablesMatched schema => "NoTablesMatched \x7b schema: " ++ inQuotes schema ++ " \x7d"
  | .io cause => "Io(" ++ cause.report ++ ")"

namespace CommandLine

inductive CommandError
  | unreadableConfig (path : String) (cause : IoError)
  | malformedConfig (path : String)
  | existingConfig (path : String)
  | noFileName (path : String)
  | io (cause : IoError)
  | core (cause : Error)
deriving Repr, DecidableEq

namespace CommandError

def ofSave : SaveError → CommandError
  | .noFileName path => noFileName path
  | .io cause => io cause

/-- What is wrong with the configuration file or an output path. -/
def detail? : CommandError → Option String
  | unreadableConfig path cause => some ("cannot read " ++ path ++ ": " ++ cause.message)
  | malformedConfig path => some (path ++ ": not a configuration")
  | existingConfig path => some (path ++ " already exists (use --force to overwrite)")
  | noFileName path => some ("invalid output path '" ++ path ++ "'")
  | io _ => none
  | core _ => none

def report (e : CommandError) : String :=
  "Error: " ++ match e, e.detail? with
    | _, some detail => "InvalidConfig(" ++ inQuotes detail ++ ")"
    | io cause, none => "Io(" ++ cause.report ++ ")"
    | core cause, none => "Core(" ++ cause.report ++ ")"
    | _, none => ""

end CommandError

end CommandLine

end ZodCatalog
