import ZodCatalog.Pattern.Fault

/-!
What can go wrong, by cause, and the text that reports it.
-/

namespace ZodCatalog

/-- Which of the two relation filters. -/
inductive FilterSide
  | including
  | excluding
deriving Repr, DecidableEq

def FilterSide.label : FilterSide → String
  | including => "include"
  | excluding => "exclude"

inductive ConfigurationError
  | emptySchemaName
  | conflictingCases
  | missingConnectionFields (names : List String)
  | invalidPattern (side : FilterSide) (pattern : String) (fault : Pattern.Fault)
  | invalidConnectionString
  | invalidSslMode (mode : String)
  | sharedModule (relation moduleName : String)
deriving Repr, DecidableEq

namespace ConfigurationError

def message : ConfigurationError → String
  | emptySchemaName => "schema name cannot be empty"
  | conflictingCases => "lowercase and uppercase string transforms are mutually exclusive"
  | missingConnectionFields names =>
    "missing connection field(s): " ++ String.intercalate ", " names ++
      " (or provide a connection string)"
  | invalidPattern side pattern _ => "invalid " ++ side.label ++ " pattern '" ++ pattern ++ "'"
  | invalidConnectionString => "invalid connection string"
  | invalidSslMode mode => "invalid ssl_mode '" ++ mode ++ "'"
  | sharedModule relation moduleName =>
    "relation " ++ relation ++ " maps to module " ++ moduleName ++
      ", which another relation already uses; exclude one of them"

def fullMessage (e : ConfigurationError) : String :=
  match e with
  | invalidPattern _ _ fault => fault.explanation?.elim e.message (e.message ++ ": " ++ ·)
  | _ => e.message

end ConfigurationError

/-- Errors of the file system, and of writers that refuse a call. -/
inductive IoError
  | notFound
  | busy
  | alreadyExists
  | notADirectory
  | isADirectory
  | nameTooLong
  | nulInPath
  | refused (what : String)
deriving Repr, DecidableEq

namespace IoError

def description : IoError → String
  | notFound => "No such file or directory"
  | busy => "Device or resource busy"
  | alreadyExists => "File exists"
  | notADirectory => "Not a directory"
  | isADirectory => "Is a directory"
  | nameTooLong => "File name too long"
  | nulInPath => "file name contained an unexpected NUL byte"
  | refused what => what ++ " refused"

/-- The error number of the system, where the system reports the error. -/
def code? : IoError → Option Nat
  | notFound => some 2
  | busy => some 16
  | alreadyExists => some 17
  | notADirectory => some 20
  | isADirectory => some 21
  | nameTooLong => some 36
  | nulInPath => none
  | refused _ => none

def kind : IoError → String
  | notFound => "NotFound"
  | busy => "ResourceBusy"
  | alreadyExists => "AlreadyExists"
  | notADirectory => "NotADirectory"
  | isADirectory => "IsADirectory"
  | nameTooLong => "InvalidFilename"
  | nulInPath => "InvalidInput"
  | refused _ => "Other"

def message (e : IoError) : String :=
  match e.code? with
  | some code => e.description ++ " (os error " ++ toString code ++ ")"
  | none => e.description

end IoError

inductive Error
  | configuration (cause : ConfigurationError)
  | connection (detail : String)
  | catalog (detail : String)
  | hook (detail : String)
  | noTablesMatched (schema : String)
  | io (cause : IoError)
deriving Repr, DecidableEq

namespace Error

def message : Error → String
  | configuration cause => "configuration error: " ++ cause.message
  | connection detail => "connection error: " ++ detail
  | catalog detail => "catalog error: " ++ detail
  | hook detail => detail
  | noTablesMatched schema =>
    "no tables matched the configured filters in schema '" ++ schema ++ "'"
  | io cause => "io error: " ++ cause.message

def fullMessage : Error → String
  | configuration cause => "configuration error: " ++ cause.fullMessage
  | e => e.message

/-- The kind of error in one word. -/
def kind : Error → String
  | configuration _ => "Configuration"
  | connection _ => "Connection"
  | catalog _ => "Catalog"
  | hook _ => "Hook"
  | noTablesMatched _ => "NoTablesMatched"
  | io _ => "Io"

end Error

end ZodCatalog
