import ZodCatalog.CommandLine.Overrides

/-!
The commands of the program and the arguments they take.
-/

namespace ZodCatalog.CommandLine

inductive LogFormat
  | text
  | json
deriving Repr, DecidableEq

def LogFormat.ofText? : String → Option LogFormat
  | "text" => some text
  | "json" => some json
  | _ => none

structure GenerateOptions where
  configPath : Option String
  overrides : Given
  dryRun : Bool
  reportPath : Option String
  verbose : Bool
  logFormat : LogFormat
  logPath : Option String
deriving Repr

inductive Command
  | generate (options : GenerateOptions)
  | configSchema
  /-- Writes a configuration file that holds the defaults. -/
  | defaults (path : String) (force : Bool)
deriving Repr

def defaultConfigPath : String := "pgzod.toml"

def pathFlag (name : String) (short : Option Char) (valueName about : String) : Flag :=
  { name, short, fault := OverrideFlag.emptyPath, valueName, about }

def generateFlags : List Flag :=
  [pathFlag "config" (some 'c') "CONFIG"
     "Configuration file; `pgzod.toml` is used when present"] ++
    OverrideFlag.flags ++
    [{ name := "dry-run", arity := .switch, about := "Render everything but write nothing" },
     pathFlag "report" none "PATH" "Write a JSON report of the run to this path",
     { name := "verbose", short := some 'v', arity := .switch, about := "Log at debug level" },
     { name := "log-format", valueName := "LOG_FORMAT"
       about := "[default: text] [possible values: text, json]"
       fault := fun v => if (LogFormat.ofText? v).isSome then none else some .missingValue },
     pathFlag "log-file" none "PATH" "Append logs to this file instead of stderr"]

def defaultsFlags : List Flag :=
  [pathFlag "path" none "PATH" ("[default: " ++ defaultConfigPath ++ "]"),
   { name := "force", arity := .switch, about := "Overwrite an existing file" }]

def GenerateOptions.ofGiven (g : Given) : GenerateOptions where
  configPath := g.lookup "config"
  overrides := g
  dryRun := g.has "dry-run"
  reportPath := g.lookup "report"
  verbose := g.has "verbose"
  logFormat := ((g.lookup "log-format").bind LogFormat.ofText?).getD .text
  logPath := g.lookup "log-file"

/-- Flags in front of the command; each asks for something else than a command. -/
def programFlags : List Flag :=
  [Flag.helpFlag,
   { name := "version", short := some 'V', arity := .stop .version, about := "Print version" }]

def commandNames : List String := ["generate", "config-schema", "init", "help"]

/-- The command that the arguments of the program ask for. -/
def Command.ofArguments? : List String → Except UsageError Command
  | [] => .error .missingCommand
  | "generate" :: args => do
    return .generate (GenerateOptions.ofGiven (← given? generateFlags args))
  | "config-schema" :: args => do
    let _ ← given? [] args
    return .configSchema
  | "init" :: args => do
    let g ← given? defaultsFlags args
    return .defaults ((g.lookup "path").getD defaultConfigPath) (g.has "force")
  | ["help"] => .error .help
  | ["help", name] => .error (if commandNames.contains name then .help else .unknownCommand)
  | name :: _ =>
    if name.toList.head? = some '-' then
      match ({} : Reading).argument programFlags name with
      | .error e => .error e
      | .ok _ => .error .missingCommand
    else .error .unknownCommand

end ZodCatalog.CommandLine
