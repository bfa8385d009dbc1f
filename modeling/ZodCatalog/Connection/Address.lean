import ZodCatalog.Text.Split

/-!
Numeric addresses of hosts: four decimal bytes, or eight groups of hexadecimal digits of which a
run of zeros may be left out. Locators allow looser forms of the first kind.
-/

namespace ZodCatalog.Address

open Text

def hexValue? (c : Char) : Option Nat :=
  let n := c.toNat
  if c.isDigit then some (n - 48)
  else if 97 ≤ n && n ≤ 102 then some (n - 87)
  else if 65 ≤ n && n ≤ 70 then some (n - 55)
  else none

/-- A byte in decimal digits without leading zeros. -/
def byte? (s : List Char) : Option Nat :=
  let n := s.foldl (fun n c => 10 * n + (c.toNat - 48)) 0
  if s.isEmpty || !s.all Char.isDigit || s.length > 3 || n > 255 then none
  else if s.length > 1 && s.head? == some '0' then none
  else some n

def ipv4? (s : List Char) : Option (List Nat) := do
  let parts := splitOnChar '.' s
  if parts.length = 4 then parts.mapM byte? else none

/-- A number of a looser address: hexadecimal after `0x`, octal after another zero, or decimal. -/
def number? (s : List Char) : Option Nat :=
  let ofRadix (radix : Nat) (digits : List Char) : Option Nat := do
    let values ← digits.mapM hexValue?
    if values.all (· < radix) then some (values.foldl (fun n d => radix * n + d) 0) else none
  match s with
  | [] => none
  | '0' :: 'x' :: r => ofRadix 16 r
  | '0' :: 'X' :: r => ofRadix 16 r
  | '0' :: r => ofRadix 8 r
  | r => ofRadix 10 r

/-- The parts of a name between dots; a dot at the end counts for nothing. -/
def labels (s : List Char) : List (List Char) :=
  let parts := splitOnChar '.' s
  if parts.getLast? = some [] then parts.dropLast else parts

/-- Whether a name is taken for an address: its last part is a number, if only by its digits. -/
def endsInNumber (s : List Char) : Bool :=
  (labels s).getLast?.any fun part =>
    (!part.isEmpty && part.all Char.isDigit) || (number? part).isSome

/-- The four bytes of a looser address, which has up to four parts; the last fills what is left. -/
def looseIpv4? (s : List Char) : Option (List Nat) := do
  let parts := labels s
  let numbers ← parts.mapM number?
  let last ← numbers.getLast?
  let bytes := numbers.dropLast
  let left := 4 - bytes.length
  if parts.length > 4 || bytes.any (255 < ·) || last ≥ Nat.pow 256 left then none
  else some (bytes ++ (List.range left).reverse.map fun i => last / Nat.pow 256 i % 256)

def ipv4Text (bytes : List Nat) : List Char := joinWith ['.'] (bytes.map (Nat.toDigits 10))

/-- A group of one to four hexadecimal digits. -/
def group? (s : List Char) : Option Nat := do
  if s.isEmpty || s.length > 4 then none
  else
    let digits ← s.mapM hexValue?
    return digits.foldl (fun n d => 16 * n + d) 0

/-- Groups separated by colons; the last may be written as four bytes. -/
def groups? (allowBytes : Bool) (s : List Char) : Option (List Nat) :=
  if s.isEmpty then some []
  else
    let pieces := splitOnChar ':' s
    let last := pieces.getLast?.getD []
    match (if allowBytes then ipv4? last else none) with
    | some [a, b, c, d] => do
      let groups ← pieces.dropLast.mapM group?
      return groups ++ [256 * a + b, 256 * c + d]
    | _ => pieces.mapM group?

/-- The texts around the first double colon. -/
def cutDoubleColon : List Char → Option (List Char × List Char)
  | [] => none
  | c :: r =>
    match c :: r with
    | ':' :: ':' :: t => some ([], t)
    | _ => (cutDoubleColon r).map fun (l, t) => (c :: l, t)

def ipv6? (s : List Char) : Option (List Nat) := do
  match cutDoubleColon s with
  | some (l, r) =>
    let left ← groups? false l
    let right ← groups? true r
    let given := left.length + right.length
    if given ≤ 7 then some (left ++ List.replicate (8 - given) 0 ++ right) else none
  | none =>
    let groups ← groups? true s
    if groups.length = 8 then some groups else none

/-- The longest run of zeros from each place on: its length and where it starts. -/
def longestZeros (groups : List Nat) : Nat × Nat :=
  (List.range groups.length).foldl
    (fun (best, start) i =>
      let run := ((groups.drop i).takeWhile (· == 0)).length
      if run > best then (run, i) else (best, start))
    (0, 0)

def groupText (n : Nat) : List Char := Nat.toDigits 16 n

/-- An address with its first longest run of at least two zeros left out. -/
def ipv6Text (groups : List Nat) : List Char :=
  let join (gs : List Nat) : List Char := joinWith [':'] (gs.map groupText)
  let (run, start) := longestZeros groups
  if run ≥ 2 then join (groups.take start) ++ [':', ':'] ++ join (groups.drop (start + run))
  else join groups

def isNumeric (s : List Char) : Bool := (ipv4? s).isSome || (ipv6? s).isSome

end ZodCatalog.Address
