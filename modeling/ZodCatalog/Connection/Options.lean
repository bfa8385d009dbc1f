import ZodCatalog.Connection.Config
import ZodCatalog.Connection.Url
import ZodCatalog.Text.LetterCase

/-!
What a connection is opened with: the parts of the connection string or, if it is blank, the
fields of the configuration. What neither states is taken from the machine.
-/

namespace ZodCatalog

inductive SslMode
  | disable
  | allow
  | prefer
  | require
  | verifyCa
  | verifyFull
deriving Repr, DecidableEq

namespace SslMode

def all : List SslMode := [disable, allow, prefer, require, verifyCa, verifyFull]

def spelling : SslMode → String
  | disable => "disable"
  | allow => "allow"
  | prefer => "prefer"
  | require => "require"
  | verifyCa => "verify-ca"
  | verifyFull => "verify-full"

/-- The name used in reports. -/
def label : SslMode → String
  | disable => "Disable"
  | allow => "Allow"
  | prefer => "Prefer"
  | require => "Require"
  | verifyCa => "VerifyCa"
  | verifyFull => "VerifyFull"

/-- A mode by its spelling in any ASCII case. -/
def ofText? (s : String) : Option SslMode :=
  all.find? fun m => Text.eqIgnoringAsciiCase m.spelling.toList s.toList

end SslMode

structure ConnectOptions where
  host : String
  port : UInt16
  user : String
  database : Option String
  sslMode : SslMode
deriving Repr, DecidableEq

namespace ConnectOptions

/-- The options on a machine whose environment sets none, for the user that is logged in there. -/
def ofUser (user : String) : ConnectOptions where
  host := "localhost"
  port := 5432
  user
  database := none
  sslMode := .prefer

/-- A decimal number that fits `bits`, perhaps with a plus sign. -/
def decimal? (bits : Nat) (s : String) : Option Nat :=
  let digits := match s.toList with
    | '+' :: r => r
    | r => r
  let n := digits.foldl (fun n c => 10 * n + (c.toNat - 48)) 0
  if digits.isEmpty || !digits.all Char.isDigit || n ≥ Nat.pow 2 bits then none else some n

/-- A host, unless it is the directory of a local socket. -/
def withHost (o : ConnectOptions) (host : String) : ConnectOptions :=
  if host.toList.head? == some '/' then o else { o with host }

/-- The options changed by a parameter of a query. -/
def withParameter? (o : ConnectOptions) : String × String → Option ConnectOptions
  | ("sslmode", v) => (SslMode.ofText? v).map fun m => { o with sslMode := m }
  | ("ssl-mode", v) => (SslMode.ofText? v).map fun m => { o with sslMode := m }
  | ("host", v) => some (o.withHost v)
  | ("hostaddr", v) => if Address.isNumeric v.toList then some { o with host := v } else none
  | ("port", v) => (decimal? 16 v).map fun n => { o with port := UInt16.ofNat n }
  | ("dbname", v) => some { o with database := some v }
  | ("user", v) => some { o with user := v }
  | ("statement-cache-capacity", v) => (decimal? 64 v).map fun _ => o
  | _ => some o

/-- The options of a locator: its parts first, then its parameters in order. -/
def ofUrl? (machine : ConnectOptions) (u : Url) : Option ConnectOptions := do
  let host ← (u.host.getD []) |> Url.percentDecode?
  let user ← Url.percentDecode? u.user
  let _ ← Url.percentDecode? (u.password.getD [])
  let database ← Url.percentDecode? (u.path.dropWhile (· == '/'))
  let o := if u.host.isSome then machine.withHost host else machine
  let o := { o with port := (u.port.map UInt16.ofNat).getD o.port }
  let o := if u.user.isEmpty then o else { o with user }
  let o := if (u.path.dropWhile (· == '/')).isEmpty then o else { o with database := some database }
  (Url.queryPairs (u.query.getD [])).foldlM withParameter? o

end ConnectOptions

namespace ConnectionConfig

/-- The options that the fields of a configuration give. -/
def fieldOptions (c : ConnectionConfig) (machine : ConnectOptions) : ConnectOptions where
  host := c.host.getD machine.host
  port := c.port
  user := c.user.getD machine.user
  database := c.database <|> machine.database
  sslMode := machine.sslMode

def baseOptions (c : ConnectionConfig) (machine : ConnectOptions) : Except Error ConnectOptions :=
  match c.url? with
  | some url =>
    match (Url.ofText? url).bind (ConnectOptions.ofUrl? machine) with
    | some o => .ok o
    | none => .error (.configuration .invalidConnectionString)
  | none => .ok (c.fieldOptions machine)

/-- The options of a connection; a mode in the configuration overrides one in the string. -/
def options (c : ConnectionConfig) (machine : ConnectOptions := .ofUser "root") :
    Except Error ConnectOptions := do
  let o ← c.baseOptions machine
  match c.sslMode with
  | none => return o
  | some mode =>
    match SslMode.ofText? mode with
    | some m => return { o with sslMode := m }
    | none => throw (.configuration (.invalidSslMode mode))

end ConnectionConfig

end ZodCatalog
