import ZodCatalog.Error
import ZodCatalog.Text.Blank

/-!
Settings that say how the database is reached: a connection string, or the fields it is made of.
-/

namespace ZodCatalog

structure ConnectionConfig where
  host : Option String := none
  port : UInt16 := 5432
  database : Option String := none
  user : Option String := none
  password : Option String := none
  sslMode : Option String := none
  connectionString : Option String := none
deriving Repr, DecidableEq

namespace ConnectionConfig

open Text

def isPresent : Option String → Bool
  | some s => !allBlank s.toList
  | none => false

/-- The connection string, unless it is blank. -/
def url? (c : ConnectionConfig) : Option String :=
  c.connectionString.filter fun s => !allBlank s.toList

/-- The fields that a connection needs and the configuration lacks. -/
def missingFields (c : ConnectionConfig) : List String :=
  [("host", c.host), ("database", c.database), ("user", c.user)].filterMap fun (name, value) =>
    if isPresent value then none else some name

/-- A connection string is enough; without one host, database and user have to be there. -/
def validate (c : ConnectionConfig) : Except Error Unit :=
  if c.url?.isSome then .ok ()
  else
    match c.missingFields with
    | [] => .ok ()
    | names => .error (.configuration (.missingConnectionFields names))

end ConnectionConfig

end ZodCatalog
