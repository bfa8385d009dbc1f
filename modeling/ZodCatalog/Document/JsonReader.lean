import ZodCatalog.Document.Value
import ZodCatalog.Toml.Number
import ZodCatalog.Toml.Quoted

/-!
Documents read from JSON. The reader knows nothing of how documents are written: blanks may stand
around every token, texts may have any escape, and numbers a fraction. What a text says is one
question and what is taken of it another: values may nest only so deep, and numbers be only so big.
-/

namespace ZodCatalog.Document

namespace Json

open Toml (hexValue?)

/-! Tokens. -/

def isBlank (c : Char) : Bool := c == ' ' || c == '\t' || c == '\n' || c == '\r'

def skipBlanks (s : List Char) : List Char := s.dropWhile isBlank

/-- A code unit of 16 bits by its hexadecimal digits. -/
def unit? (a b c d : Char) : Option Nat :=
  [a, b, c, d].foldlM (fun n digit => (hexValue? digit).map (16 * n + ·)) 0

def isHigh (n : Nat) : Bool := 0xD800 ≤ n && n < 0xDC00

def isLow (n : Nat) : Bool := 0xDC00 ≤ n && n < 0xE000

/-- The character of a pair of code units. -/
def ofPair (high low : Nat) : Char :=
  Char.ofNat (0x10000 + 0x400 * (high - 0xD800) + (low - 0xDC00))

def unescape? (c : Char) : Option Char := if c = '/' then some c else Toml.simpleEscape? c

/-- A text and what follows it, with a character in front. -/
def pushChar (c : Char) (cut : Option (List Char × List Char)) : Option (List Char × List Char) :=
  cut.map fun p => (c :: p.1, p.2)

/-- A text after its opening quote. A code unit that is half of a pair waits for the other. -/
def readText : Option Nat → List Char → Option (List Char × List Char)
  | none, '"' :: r => some ([], r)
  | half, '\\' :: 'u' :: a :: b :: c :: d :: r => do
    let n ← unit? a b c d
    match half with
    | some high => if isLow n then pushChar (ofPair high n) (readText none r) else none
    | none =>
      if isHigh n then readText (some n) r
      else if isLow n then none
      else pushChar (Char.ofNat n) (readText none r)
  | none, '\\' :: c :: r => do pushChar (← unescape? c) (readText none r)
  | none, c :: r => if c.toNat < 32 then none else pushChar c (readText none r)
  | _, _ => none

def isWordChar (c : Char) : Bool := c.isAlphanum || c == '+' || c == '-' || c == '.'

/-- A whole number without sign; zero leads only alone. -/
def whole? (s : List Char) : Option Nat :=
  if s.isEmpty || !s.all Char.isDigit || (s.head? == some '0' && s.length != 1) then none
  else some (Nat.ofDigitChars 10 s 0)

def unsigned (s : List Char) : List Char := if s.head? = some '-' then s.tail else s

/-- A number, however big; zero with a sign is no integer. -/
def number? (s : List Char) : Option Value :=
  match whole? (unsigned s) with
  | some n =>
    if s.head? ≠ some '-' then some (.int n)
    else if n = 0 then some (.decimal (String.ofList s))
    else some (.int (-n))
  | none => if (Toml.scaled? (unsigned s)).isSome then some (.decimal (String.ofList s)) else none

def word? (s : List Char) : Option Value :=
  if s = "null".toList then some .null
  else if s = "true".toList then some (.bool true)
  else if s = "false".toList then some (.bool false)
  else number? s

/-! Values. -/

mutual

/-- A value and what follows it. -/
def readValue : Nat → List Char → Option (Value × List Char)
  | 0, _ => none
  | _ + 1, '"' :: r => do
    let (text, r) ← readText none r
    return (.text (String.ofList text), r)
  | fuel + 1, '[' :: r =>
    match skipBlanks r with
    | ']' :: r => some (.list [], r)
    | r => do
      let (vs, r) ← readItems fuel r
      return (.list vs, r)
  | fuel + 1, '\x7b' :: r =>
    match skipBlanks r with
    | '\x7d' :: r => some (.record [], r)
    | r => do
      let (fs, r) ← readFields fuel r
      return (.record fs, r)
  | _ + 1, s => (word? (s.takeWhile isWordChar)).map (·, s.dropWhile isWordChar)

/-- The items of a list up to its bracket, at least one. -/
def readItems : Nat → List Char → Option (List Value × List Char)
  | 0, _ => none
  | fuel + 1, s => do
    let (v, r) ← readValue fuel (skipBlanks s)
    match skipBlanks r with
    | ',' :: r =>
      let (vs, r) ← readItems fuel r
      return (v :: vs, r)
    | ']' :: r => return ([v], r)
    | _ => none

/-- The fields of a record up to its brace, at least one. -/
def readFields : Nat → List Char → Option (Fields × List Char)
  | 0, _ => none
  | fuel + 1, s =>
    match skipBlanks s with
    | '"' :: r => do
      let (key, r) ← readText none r
      match skipBlanks r with
      | ':' :: r =>
        let (v, r) ← readValue fuel (skipBlanks r)
        match skipBlanks r with
        | ',' :: r =>
          let (fs, r) ← readFields fuel r
          return ((String.ofList key, v) :: fs, r)
        | '\x7d' :: r => return ([(String.ofList key, v)], r)
        | _ => none
      | _ => none
    | _ => none

end

/-- What a text says, with nothing around it but blanks. -/
def tree? (text : String) : Option Value := do
  let s := skipBlanks text.toList
  let (v, r) ← readValue (2 * s.length + 2) s
  if (skipBlanks r).isEmpty then some v else none

/-! Limits. -/

/-- How deep lists and records may nest. -/
def nestingLimit : Nat := 127

/-- Whether a number is nearer to one of 64 bits than to infinity. -/
def isInRange (digits : String) : Bool :=
  (Toml.scaled? (unsigned digits.toList)).all fun (digits, scale) => !Toml.overflows digits scale

/-- Whether lists and records nest at most `depth` deep and all numbers are in range. -/
def withinLimits : Nat → Value → Bool
  | _, .int n => decide (n.natAbs < Toml.floatLimit)
  | _, .decimal digits => isInRange digits
  | depth + 1, .list items => items.all (withinLimits depth)
  | depth + 1, .record fields => fields.all fun f => withinLimits depth f.2
  | 0, .list _ => false
  | 0, .record _ => false
  | _, _ => true

end Json

end ZodCatalog.Document
