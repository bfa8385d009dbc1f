import ZodCatalog.CommandLine.Command

/-!
What the program says about itself and its commands. Entries are in two columns, or, where the
second column would be too narrow, on two lines each.
-/

namespace ZodCatalog.CommandLine

def versionText : String := "pgzod 0.1.0\n"

/-- What a help text is about. -/
inductive HelpTopic
  | program
  | generate
  | configSchema
  | defaults
  | help
deriving Repr, DecidableEq

def HelpTopic.ofName : String → HelpTopic
  | "generate" => generate
  | "config-schema" => configSchema
  | "init" => defaults
  | "help" => help
  | _ => program

/-- The topic that arguments ask about: a command, or the program. -/
def HelpTopic.ofArguments : List String → HelpTopic
  | ["help"] => program
  | ["help", name] => ofName name
  | name :: _ => ofName name
  | [] => program

def spaces (n : Nat) : String := String.ofList (List.replicate n ' ')

def width (entries : List (String × String)) : Nat :=
  entries.foldl (fun n (label, _) => max n label.length) 0

def lineLimit : Nat := 100

/-- Whether labels take more than two fifths of a line and some text does not fit beside them. -/
def needsOwnLines (entries : List (String × String)) : Bool :=
  let taken := width entries + 12
  taken ≤ lineLimit && lineLimit * 2 < taken * 5 &&
    entries.any fun (_, about) => lineLimit - taken < about.length

/--
A heading over entries. The second column starts two places after the longest label; on a line of
its own a text stands ten places to the right.
-/
def block (heading : String) (entries : List (String × String)) : String :=
  let gap (label : String) : String :=
    if needsOwnLines entries then "\n" ++ spaces 10
    else spaces (width entries + 2 - label.length)
  heading ++ ":\n" ++ String.join (entries.map fun (label, about) =>
    "  " ++ label ++ gap label ++ about ++ "\n")

/-- A flag with its short form and the name of its value. -/
def Flag.label (f : Flag) : String :=
  (match f.short with
    | some c => "-" ++ c.toString ++ ", "
    | none => "    ") ++ "--" ++ f.name ++
    if f.takesValue then " <" ++ f.valueName ++ ">" else ""

def options (flags : List Flag) : String :=
  block "Options" (flags.map fun f => (f.label, f.about))

def commandsBlock : String :=
  block "Commands"
    [("generate", "Introspect the database and write one module per relation"),
     ("config-schema", "Print the JSON Schema of the configuration file"),
     ("init", "Write a configuration file holding the defaults"),
     ("help", "Print this message or the help of the given subcommand(s)")]

def HelpTopic.text : HelpTopic → String
  | program =>
    "Generate Zod schemas from a Postgres catalog\n\nUsage: pgzod <COMMAND>\n\n" ++
      commandsBlock ++ "\n" ++ options programFlags
  | generate =>
    "Introspect the database and write one module per relation\n\n" ++
      "Usage: pgzod generate [OPTIONS]\n\n" ++ options (generateFlags ++ [Flag.helpFlag])
  | configSchema =>
    "Print the JSON Schema of the configuration file\n\nUsage: pgzod config-schema\n\n" ++
      options [Flag.helpFlag]
  | defaults =>
    "Write a configuration file holding the defaults\n\nUsage: pgzod init [OPTIONS]\n\n" ++
      options (defaultsFlags ++ [Flag.helpFlag])
  | help =>
    "Print this message or the help of the given subcommand(s)\n\n" ++
      "Usage: pgzod help [COMMAND]...\n\n" ++
      block "Arguments" [("[COMMAND]...", "Print help for the subcommand(s)")]

end ZodCatalog.CommandLine
