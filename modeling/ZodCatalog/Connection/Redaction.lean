import ZodCatalog.Connection.Config
import ZodCatalog.Text.LetterCase
import ZodCatalog.Text.Split

/-!
Descriptions of connections that can be logged. The password in a connection string and the
values of sensitive query parameters are masked; everything else is kept.
-/

namespace ZodCatalog.Redaction

open Text

def mask : List Char := ['*', '*', '*']

/-- The text up to and including the first `://`, and what follows it. -/
def cutScheme : List Char → Option (List Char × List Char)
  | [] => none
  | c :: r =>
    match c :: r with
    | ':' :: '/' :: '/' :: t => some ([':', '/', '/'], t)
    | _ => (cutScheme r).map fun (scheme, t) => (c :: scheme, t)

def endsAuthority (c : Char) : Bool := c == '/' || c == '?'

/-- The authority with the text between the first colon and the last at sign masked. -/
def maskAuthority (authority : List Char) : List Char :=
  match cutLast (· == '@') authority with
  | some (login, host) =>
    match cutFirst (· == ':') login with
    | some (user, _) => user ++ [':'] ++ mask ++ ['@'] ++ host
    | none => authority
  | none => authority

def maskPassword (s : List Char) : List Char :=
  match cutScheme s with
  | some (scheme, rest) =>
    scheme ++ maskAuthority (rest.takeWhile (!endsAuthority ·)) ++ rest.dropWhile (!endsAuthority ·)
  | none => s

def sensitiveKeys : List String := ["password", "pass", "passfile", "sslpassword"]

def isSensitive (key : List Char) : Bool := sensitiveKeys.any (·.toList == lower key)

def maskParameter (pair : List Char) : List Char :=
  match cutFirst (· == '=') pair with
  | some (key, _) => if isSensitive key then key ++ ['='] ++ mask else pair
  | none => pair

def maskQuery (s : List Char) : List Char :=
  match cutFirst (· == '?') s with
  | some (base, query) =>
    base ++ ['?'] ++ joinWith ['&'] ((splitOnChar '&' query).map maskParameter)
  | none => s

end Redaction

open Redaction in
/-- A connection string without its secrets. -/
def redact (connection : String) : String :=
  String.ofList (maskQuery (maskPassword connection.toList))

namespace ConnectionConfig

/-- The login in front of the host; a password is shown as a mask. -/
def loginText (c : ConnectionConfig) : String :=
  let user := c.user.getD ""
  if user = "" then ""
  else if c.password.isSome then user ++ ":***@"
  else user ++ "@"

/-- Where a run connects, without secrets. -/
def describe (c : ConnectionConfig) : String :=
  match c.connectionString with
  | some s => redact s
  | none =>
    "postgres://" ++ c.loginText ++ c.host.getD "" ++ ":" ++ toString c.port.toNat ++ "/" ++
      c.database.getD ""

end ConnectionConfig

end ZodCatalog
