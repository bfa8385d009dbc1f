import ZodCatalog.Text.Split

/-!
Flags of a command: which there are, what they take, and the values that a list of arguments
gives them. Arguments are read from left to right and the first fault ends the reading. A flag
that waits for its value is checked when the next flag comes or the arguments end.
-/

namespace ZodCatalog.CommandLine

open Text

/-- Why arguments are not accepted, or what they ask for instead of a run. -/
inductive UsageError
  | unknownArgument
  | missingValue
  | rejectedValue
  | conflict
  | unneededValue
  | missingCommand
  | unknownCommand
  | help
  | version
deriving Repr, DecidableEq

/-- How a flag may be given. -/
inductive Arity
  | switch
  | single
  | repeated
  /-- Ends the reading. -/
  | stop (reason : UsageError)
deriving Repr, DecidableEq

structure Flag where
  name : String
  short : Option Char := none
  arity : Arity := .single
  /-- Why a value is not accepted. -/
  fault : String → Option UsageError := fun _ => none
  /-- Flags that may not be given together with this one. -/
  conflicts : List String := []
  /-- What help calls the value. -/
  valueName : String := ""
  about : String := ""

namespace Flag

def helpFlag : Flag where
  name := "help"
  short := some 'h'
  arity := .stop .help
  about := "Print help"

def takesValue (f : Flag) : Bool := f.arity == .single || f.arity == .repeated

end Flag

/-- The values that were given, in order; a switch has an empty one. -/
abbrev Given := List (String × String)

namespace Given

def has (g : Given) (name : String) : Bool := (g.lookup name).isSome

def valuesOf (g : Given) (name : String) : List String :=
  (g.filter (·.1 == name)).map Prod.snd

end Given

/-- What has been read, and the flag that waits, perhaps with its value. -/
structure Reading where
  given : Given := []
  pending : Option (Flag × Option String) := none

namespace Reading

/-- Accepts a value of a flag; only a repeated flag may be given twice. -/
def accept (r : Reading) (f : Flag) (value : String) : Except UsageError Reading :=
  if f.arity ≠ .repeated ∧ r.given.has f.name then .error .conflict
  else
    match f.fault value with
    | some e => .error e
    | none => .ok { r with given := r.given ++ [(f.name, value)] }

/-- Accepts the flag that waits. -/
def settle (r : Reading) : Except UsageError Reading :=
  match r.pending with
  | none => .ok r
  | some (_, none) => .error .missingValue
  | some (f, some value) => { r with pending := none }.accept f value

/-- Reads a flag, `attached` being the text that is joined to it. -/
def flag (r : Reading) (f : Flag) (attached : Option String) : Except UsageError Reading := do
  match f.arity, attached with
  | .stop reason, none => let _ ← r.settle; throw reason
  | .switch, none => (← r.settle).accept f ""
  | .stop _, some _ => throw .unneededValue
  | .switch, some _ => throw .unneededValue
  | _, some value => (← r.settle).accept f value
  | _, none => return { ← r.settle with pending := some (f, none) }

/-- A long flag, its value perhaps after an equals sign. -/
def long (flags : List Flag) (r : Reading) (text : List Char) : Except UsageError Reading :=
  let (name, attached) := match cutFirst (· == '=') text with
    | some (name, value) => (name, some (String.ofList value))
    | none => (text, none)
  match flags.find? (·.name.toList == name) with
  | some f => r.flag f attached
  | none => .error .unknownArgument

/-- The text joined to a short flag; an equals sign in front of it does not count. -/
def attachedText : List Char → Option String
  | [] => none
  | '=' :: value => some (String.ofList value)
  | value => some (String.ofList value)

/-- Short flags in one argument; one that takes a value takes the rest of it. -/
def cluster (flags : List Flag) (r : Reading) : List Char → Except UsageError Reading
  | [] => .ok r
  | c :: rest =>
    match flags.find? (·.short == some c) with
    | none => .error .unknownArgument
    | some f =>
      if f.takesValue then r.flag f (attachedText rest)
      else do cluster flags (← r.flag f none) rest

/-- An argument that is no flag is the value of the flag that waits for one. -/
def plain (r : Reading) (text : String) : Except UsageError Reading :=
  match r.pending with
  | some (f, none) => .ok { r with pending := some (f, some text) }
  | _ => .error .unknownArgument

def argument (flags : List Flag) (r : Reading) (text : String) : Except UsageError Reading :=
  match text.toList with
  | '-' :: '-' :: name => r.long flags name
  | '-' :: c :: cs => r.cluster flags (c :: cs)
  | _ => r.plain text

/-- Reads arguments; after two dashes alone no argument is a flag. -/
def arguments (flags : List Flag) (r : Reading) : List String → Except UsageError Reading
  | [] => r.settle
  | "--" :: rest => if rest.isEmpty then r.settle else .error .unknownArgument
  | text :: rest => do arguments flags (← r.argument flags text) rest

end Reading

def hasConflict (flags : List Flag) (g : Given) : Bool :=
  flags.any fun f => g.has f.name && f.conflicts.any g.has

def given? (flags : List Flag) (args : List String) : Except UsageError Given := do
  let flags := flags ++ [Flag.helpFlag]
  let r ← ({} : Reading).arguments flags args
  if hasConflict flags r.given then throw .conflict
  return r.given

end ZodCatalog.CommandLine
