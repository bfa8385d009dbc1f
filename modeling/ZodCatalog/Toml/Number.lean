import ZodCatalog.Document.Value
import ZodCatalog.Text.Split

/-!
Numbers, truth values and times of TOML.
-/

namespace ZodCatalog.Toml

open Document Text

/-- The digits of a number in groups joined by single low lines. -/
def digits? (isDigit : Char → Bool) (s : List Char) : Option (List Char) :=
  let groups := splitOnChar '_' s
  if groups.all fun g => !g.isEmpty && g.all isDigit then some groups.flatten else none

def digitValue (c : Char) : Nat :=
  if c.isDigit then c.toNat - 48 else if 'a' ≤ c then c.toNat - 87 else c.toNat - 55

def ofDigits (radix : Nat) (digits : List Char) : Nat :=
  digits.foldl (fun n c => radix * n + digitValue c) 0

def unsigned (s : List Char) : List Char :=
  match s with
  | '+' :: r => r
  | '-' :: r => r
  | r => r

/-- The digits of a decimal number without sign; zero leads only alone. -/
def decimalDigits? (s : List Char) : Option (List Char) := do
  let digits ← digits? Char.isDigit s
  if digits.head? = some '0' ∧ 1 < digits.length then none else some digits

def int64? (n : Int) : Option Value :=
  if -9223372036854775808 ≤ n ∧ n ≤ 9223372036854775807 then some (.int n) else none

def integer? : List Char → Option Value
  | '0' :: 'x' :: r => do
    int64? (ofDigits 16 (← digits? (fun c => c.isDigit || ('a' ≤ c && c ≤ 'f') ||
      ('A' ≤ c && c ≤ 'F')) r))
  | '0' :: 'o' :: r => do int64? (ofDigits 8 (← digits? (fun c => '0' ≤ c && c ≤ '7') r))
  | '0' :: 'b' :: r => do int64? (ofDigits 2 (← digits? (fun c => c == '0' || c == '1') r))
  | s => do
    let n := ofDigits 10 (← decimalDigits? (unsigned s))
    int64? (if s.head? = some '-' then -n else n)

/-- The least magnitude that is nearer to no number of 64 bits than to infinity. -/
def floatLimit : Nat := Nat.pow 2 1024 - Nat.pow 2 970

/-- Whether a number, its digits followed by as many zeros as `scale` says, is out of reach. -/
def overflows (digits : List Char) (scale : Int) : Bool :=
  let significant := digits.dropWhile (· == '0')
  let size := significant.length + scale
  !significant.isEmpty && (decide (309 < size) || (size == 309 &&
    decide (floatLimit * Nat.pow 10 (-scale).toNat ≤
      ofDigits 10 significant * Nat.pow 10 scale.toNat)))

/-- The exponent of a number, if it is well formed. -/
def exponent? (s : List Char) : Option Int := do
  let n := ofDigits 10 (← digits? Char.isDigit (unsigned s))
  return if s.head? = some '-' then -n else n

def isExponentMark (c : Char) : Bool := c == 'e' || c == 'E'

/--
A number without sign that has a fraction, an exponent or both: its digits, and how many zeros
follow them.
-/
def scaled? (s : List Char) : Option (List Char × Int) := do
  let (mantissa, exponent) := match cutFirst isExponentMark s with
    | some (m, e) => (m, some e)
    | none => (s, none)
  let (whole, fraction) := match cutFirst (· == '.') mantissa with
    | some (w, f) => (w, some f)
    | none => (mantissa, none)
  let front ← decimalDigits? whole
  let back ← (fraction.map (digits? Char.isDigit)).getD (some [])
  let scale ← (exponent.map exponent?).getD (some 0)
  if fraction.isNone && exponent.isNone then none else some (front ++ back, scale - back.length)

/-- A number of 64 bits, or one of the two special ones; only below zero may it overflow. -/
def isFloat (s : List Char) : Bool :=
  let body := unsigned s
  body == "inf".toList || body == "nan".toList ||
    (scaled? body).any fun (digits, scale) => s.head? == some '-' || !overflows digits scale

def twoDigits? (low high : Nat) (s : List Char) : Option Nat :=
  let n := ofDigits 10 s
  if s.length = 2 ∧ s.all Char.isDigit ∧ low ≤ n ∧ n ≤ high then some n else none

def daysIn (year month : Nat) : Nat :=
  if month = 2 then if year % 4 = 0 ∧ (year % 100 ≠ 0 ∨ year % 400 = 0) then 29 else 28
  else if month = 4 ∨ month = 6 ∨ month = 9 ∨ month = 11 then 30
  else 31

def isDate (s : List Char) : Bool :=
  match splitOnChar '-' s with
  | [year, month, day] =>
    match twoDigits? 1 12 month, twoDigits? 1 31 day with
    | some m, some d =>
      year.length == 4 && year.all Char.isDigit && decide (d ≤ daysIn (ofDigits 10 year) m)
    | _, _ => false
  | _ => false

/-- Whole seconds, perhaps with a fraction. -/
def isSeconds (s : List Char) : Bool :=
  match cutFirst (· == '.') s with
  | some (whole, fraction) =>
    (twoDigits? 0 60 whole).isSome && !fraction.isEmpty && fraction.all Char.isDigit
  | none => (twoDigits? 0 60 s).isSome

def isTime (s : List Char) : Bool :=
  match splitOnChar ':' s with
  | [hour, minute, second] =>
    (twoDigits? 0 23 hour).isSome && (twoDigits? 0 59 minute).isSome && isSeconds second
  | _ => false

def isOffset (s : List Char) : Bool :=
  match splitOnChar ':' s with
  | [hour, minute] => (twoDigits? 0 23 hour).isSome && (twoDigits? 0 59 minute).isSome
  | _ => false

/-- A time of day with an optional offset. -/
def isOffsetTime (s : List Char) : Bool :=
  match cutFirst (fun c => c == 'Z' || c == 'z') s with
  | some (time, rest) => isTime time && rest.isEmpty
  | none =>
    match cutFirst (fun c => c == '+' || c == '-') s with
    | some (time, offset) => isTime time && isOffset offset
    | none => isTime s

/-- A date, a date with a time, or a time; a date is ten characters long. -/
def isDateTime (s : List Char) : Bool :=
  match s.drop 10 with
  | [] => isDate s || isTime s
  | c :: time =>
    isTime s ||
      (isDate (s.take 10) && (c == 'T' || c == 't' || c == ' ') && isOffsetTime time)

/-- A date or time as a document, which is no text. -/
def dateTimeValue (s : List Char) : Value := .record [("datetime", .text (String.ofList s))]

/-- A value that is a single word. -/
def word? (s : List Char) : Option Value :=
  if s = "true".toList then some (.bool true)
  else if s = "false".toList then some (.bool false)
  else if isDateTime s then some (dateTimeValue s)
  else if isFloat s then some (.decimal (String.ofList s))
  else integer? s

def isWordChar (c : Char) : Bool :=
  c.isAlphanum || c == '_' || c == '+' || c == '-' || c == '.' || c == ':'

/-- A date with its time after a blank, or a single word. -/
def scalarWord? (s : List Char) : Option (Value × List Char) := do
  let first := s.takeWhile isWordChar
  let rest := s.dropWhile isWordChar
  match rest with
  | ' ' :: r =>
    if isDate first && (r.head?.any Char.isDigit) then
      let both := first ++ ' ' :: r.takeWhile isWordChar
      if isDateTime both then return (dateTimeValue both, r.dropWhile isWordChar) else none
    else return (← word? first, rest)
  | _ => return (← word? first, rest)

end ZodCatalog.Toml
