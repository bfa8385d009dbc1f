import ZodCatalog.Connection.Address
import ZodCatalog.Text.Utf8

/-!
Uniform resource locators, as far as connecting needs them: the parts of an absolute one, and the
bytes that percent signs stand for.
-/

namespace ZodCatalog

open Text

/-- The parts of a locator; texts are as written, with their percent signs. -/
structure Url where
  scheme : List Char
  user : List Char := []
  password : Option (List Char) := none
  host : Option (List Char) := none
  port : Option Nat := none
  path : List Char := []
  query : Option (List Char) := none
deriving Repr, DecidableEq

namespace Url

/-! Percent signs. -/

/-- The bytes of a text; a percent sign with two hexadecimal digits is one byte. -/
def percentBytes : List Char → List Nat
  | [] => []
  | '%' :: a :: b :: r =>
    match Address.hexValue? a, Address.hexValue? b with
    | some m, some n => (16 * m + n) :: percentBytes r
    | _, _ => 37 :: percentBytes (a :: b :: r)
  | c :: r => Utf8.encodeChar c ++ percentBytes r

/-- The text that percent signs stand for, if its bytes are a text. -/
def percentDecode? (s : List Char) : Option String :=
  (Utf8.decode? (percentBytes s)).map String.ofList

/-- A key or value of a query; a plus sign stands for a blank. -/
def formDecode (s : List Char) : String :=
  String.ofList (Utf8.decodeLossy (percentBytes (s.map fun c => if c = '+' then ' ' else c)))

def queryPairs (query : List Char) : List (String × String) :=
  ((splitOnChar '&' query).filter fun pair => !pair.isEmpty).map fun pair =>
    match cutFirst (· == '=') pair with
    | some (key, value) => (formDecode key, formDecode value)
    | none => (formDecode pair, "")

/-! Parts. -/

def isControlOrSpace (c : Char) : Bool := c.toNat ≤ 32

/-- The text without controls and blanks at its ends, and without tabs and line breaks. -/
def cleaned (s : List Char) : List Char :=
  let front := s.dropWhile isControlOrSpace
  let both := (front.reverse.dropWhile isControlOrSpace).reverse
  both.filter fun c => c != '\t' && c != '\n' && c != '\r'

def isSchemePart (c : Char) : Bool := c.isAlphanum || c == '+' || c == '-' || c == '.'

/-- The scheme in lower case and what follows its colon. -/
def cutScheme? (s : List Char) : Option (List Char × List Char) :=
  match s with
  | c :: _ =>
    if c.isAlpha then
      match s.dropWhile isSchemePart with
      | ':' :: r => some ((s.takeWhile isSchemePart).map Char.toLower, r)
      | _ => none
    else none
  | [] => none

/-- Schemes whose locators always have a host, with the port that is left out. -/
def defaultPorts : List (String × Nat) :=
  [("http", 80), ("https", 443), ("ws", 80), ("wss", 443), ("ftp", 21)]

def defaultPort? (scheme : List Char) : Option Nat := defaultPorts.lookup (String.ofList scheme)

def endsPath (c : Char) : Bool := c == '?' || c == '#'

/-- Characters that end an authority; a backslash does where a scheme has a default port. -/
def endsAuthority (special : Bool) (c : Char) : Bool :=
  c == '/' || endsPath c || (special && c == '\\')

/-- The host up to a colon outside of brackets. -/
def hostText (bracketed : Bool) : List Char → List Char
  | [] => []
  | c :: r =>
    if c = ':' && !bracketed then []
    else c :: hostText (if c = '[' then true else if c = ']' then false else bracketed) r

def forbiddenInHost : List Char :=
  ['\x00', '\t', '\n', '\r', ' ', '#', '/', ':', '<', '>', '?', '@', '[', '\\', ']', '^', '|']

def bracketedHost? (s : List Char) : Option (List Char) :=
  match s.getLast? with
  | some ']' => (Address.ipv6? s.tail.dropLast).map fun g => '[' :: Address.ipv6Text g ++ [']']
  | _ => none

/-- A host; where a scheme has a default port it is an address or a domain name in lower case. -/
def host? (special : Bool) (s : List Char) : Option (List Char) :=
  if s.head? == some '[' then bracketedHost? s
  else if special then do
    let name ← Utf8.decode? (percentBytes s)
    if name.isEmpty || name.any (fun c => forbiddenInHost.contains c || c == '%' || c.toNat < 33 ||
        c.toNat ≥ 127) then none
    else if Address.endsInNumber name then (Address.looseIpv4? name).map Address.ipv4Text
    else some (name.map Char.toLower)
  else if s.any forbiddenInHost.contains then none
  else some s

/-- The port behind a host; a colon alone, or the default port, stands for none. -/
def port? (scheme : List Char) (s : List Char) : Option (Option Nat) :=
  match s with
  | [] => some none
  | _ :: digits =>
    let n := digits.foldl (fun n c => 10 * n + (c.toNat - 48)) 0
    if !digits.all Char.isDigit || n > 65535 then none
    else if digits.isEmpty || defaultPort? scheme = some n then some none
    else some (some n)

/-- Segments that mean this place of a path, or the place above. -/
def dotCount (segment : List Char) : Nat :=
  match (String.ofList (segment.map Char.toLower)) with
  | "." => 1
  | "%2e" => 1
  | ".." => 2
  | "%2e%2e" => 2
  | "%2e." => 2
  | ".%2e" => 2
  | _ => 0

/-- The segments of a path with its dot segments followed. -/
def followDots (done : List (List Char)) : List (List Char) → List (List Char)
  | [] => done
  | segment :: rest =>
    let kept := match dotCount segment with
      | 0 => done ++ [segment]
      | 1 => if rest.isEmpty then done ++ [[]] else done
      | _ => if rest.isEmpty then done.dropLast ++ [[]] else done.dropLast
    followDots kept rest

def isSlash (special : Bool) (c : Char) : Bool := c == '/' || (special && c == '\\')

/-- A path below a root. -/
def rootedPath (special : Bool) (s : List Char) : List Char :=
  let below := match s with
    | c :: r => if isSlash special c then r else s
    | [] => []
  '/' :: joinWith ['/'] (followDots [] (splitWhere (isSlash special) below))

def queryOf (s : List Char) : Option (List Char) :=
  match s with
  | '?' :: r => some (r.takeWhile (· != '#'))
  | _ => none

def withPath (u : Url) (special : Bool) (s : List Char) : Url :=
  let path := s.takeWhile (!endsPath ·)
  { u with
    path := if path.isEmpty && !special then [] else rootedPath special path
    query := queryOf (s.dropWhile (!endsPath ·)) }

/-- The login in front of a host: a user and perhaps a password. -/
def login (s : List Char) : List Char × Option (List Char) :=
  match cutFirst (· == ':') s with
  | some (user, password) => (user, if password.isEmpty then none else some password)
  | none => (s, none)

/-- What follows two slashes. -/
def ofAuthority? (scheme : List Char) (s : List Char) : Option Url := do
  let special := (defaultPort? scheme).isSome
  let authority := s.takeWhile (!endsAuthority special ·)
  let rest := s.dropWhile (!endsAuthority special ·)
  let (loginText, place) := (cutLast (· == '@') authority).getD ([], authority)
  let (user, password) := login loginText
  let hasLogin := !user.isEmpty || password.isSome
  let startsWithAt := authority.head? == some '@' && loginText.isEmpty
  let name := hostText false place
  let port ← port? scheme (place.drop name.length)
  if name.isEmpty then
    if special || hasLogin || !(place.drop name.length).isEmpty ||
        (startsWithAt && !rest.isEmpty) then
      none
    else some (withPath { scheme } special rest)
  else
    let host ← host? special name
    some (withPath { scheme, user, password, host := some host, port } special rest)

/-- A locator of a file: a host may stand between slashes, the path follows it. -/
def ofFile? (scheme : List Char) (s : List Char) : Option Url :=
  match s with
  | a :: b :: r =>
    if isSlash true a && isSlash true b then do
      let name := r.takeWhile fun c => !endsAuthority true c
      let rest := r.drop name.length
      if name.isEmpty then some (withPath { scheme } true rest)
      else
        let host ← host? true name
        some (withPath { scheme, host := if host = "localhost".toList then none else some host }
          true rest)
    else some (withPath { scheme } true s)
  | _ => some (withPath { scheme } true s)

/-- The parts of an absolute locator. -/
def ofText? (s : String) : Option Url := do
  let (scheme, rest) ← cutScheme? (cleaned s.toList)
  if scheme = "file".toList then ofFile? scheme rest
  else if (defaultPort? scheme).isSome then
    ofAuthority? scheme (rest.dropWhile (isSlash true))
  else
    match rest with
    | '/' :: '/' :: r => ofAuthority? scheme r
    | '/' :: _ => some (withPath { scheme } false rest)
    | _ =>
      some {
        scheme
        path := rest.takeWhile (!endsPath ·)
        query := queryOf (rest.dropWhile (!endsPath ·)) }

end Url

end ZodCatalog
