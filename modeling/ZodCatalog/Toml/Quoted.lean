/-!
Lines, comments, strings and keys of TOML. A reader gives what it read and the rest of the text.
-/

namespace ZodCatalog.Toml

def isBlank (c : Char) : Bool := c == ' ' || c == '\t'

/-- A character that may stand for itself in comments and strings of one line. -/
def isPlain (c : Char) : Bool := c == '\t' || (32 ≤ c.toNat && c.toNat ≠ 127)

def skipBlanks (s : List Char) : List Char := s.dropWhile isBlank

def newline? : List Char → Option (List Char)
  | '\n' :: r => some r
  | '\r' :: '\n' :: r => some r
  | _ => none

/-- What follows the line, if blanks and a comment are all that is left of it. -/
def lineEnd? (s : List Char) : Option (List Char) :=
  let s := match skipBlanks s with
    | '#' :: r => r.dropWhile isPlain
    | s => s
  if s.isEmpty then some [] else newline? s

/-- Skips blanks, line ends and comments; `comment` says that one is open. -/
def skipGap (comment : Bool) : List Char → List Char
  | [] => []
  | '\n' :: r => skipGap false r
  | '\r' :: '\n' :: r => skipGap false r
  | c :: r =>
    if comment then if isPlain c then skipGap true r else c :: r
    else if c = '#' then skipGap true r
    else if isBlank c then skipGap false r
    else c :: r

/-- A text and what follows it. -/
abbrev Cut := Option (List Char × List Char)

def Cut.cons (c : Char) (cut : Cut) : Cut := cut.map fun (text, rest) => (c :: text, rest)

def hexValue? (c : Char) : Option Nat :=
  if c.isDigit then some (c.toNat - 48)
  else if 'a' ≤ c ∧ c ≤ 'f' then some (c.toNat - 87)
  else if 'A' ≤ c ∧ c ≤ 'F' then some (c.toNat - 55)
  else none

/-- The character of a number in hexadecimal digits. -/
def scalar? (digits : List Char) : Option Char := do
  let n ← digits.foldlM (fun n c => (hexValue? c).map (16 * n + ·)) 0
  if n.isValidChar then some (Char.ofNat n) else none

def simpleEscape? : Char → Option Char
  | 'b' => some '\x08'
  | 't' => some '\t'
  | 'n' => some '\n'
  | 'f' => some '\x0c'
  | 'r' => some '\r'
  | '"' => some '"'
  | '\\' => some '\\'
  | _ => none

/-- A basic string after its opening quote. -/
def basic : List Char → Cut
  | [] => none
  | '"' :: r => some ([], r)
  | '\\' :: 'u' :: a :: b :: c :: d :: r => do Cut.cons (← scalar? [a, b, c, d]) (basic r)
  | '\\' :: 'U' :: a :: b :: c :: d :: e :: f :: g :: h :: r => do
    Cut.cons (← scalar? [a, b, c, d, e, f, g, h]) (basic r)
  | '\\' :: c :: r => do Cut.cons (← simpleEscape? c) (basic r)
  | c :: r => if isPlain c then Cut.cons c (basic r) else none

/-- A literal string after its opening quote. -/
def literal : List Char → Cut
  | [] => none
  | '\'' :: r => some ([], r)
  | c :: r => if isPlain c then Cut.cons c (literal r) else none

/--
A basic string of several lines after its opening quotes. While `skipping`, blanks and line ends
are left out, as they are after a backslash at the end of a line.
-/
def basicLines (skipping : Bool) : List Char → Cut
  | [] => none
  | '\n' :: r =>
    if skipping then basicLines true r else Cut.cons '\n' (basicLines false r)
  | '\r' :: '\n' :: r =>
    if skipping then basicLines true r else Cut.cons '\n' (basicLines false r)
  | '"' :: '"' :: '"' :: '"' :: '"' :: r => some (['"', '"'], r)
  | '"' :: '"' :: '"' :: '"' :: r => some (['"'], r)
  | '"' :: '"' :: '"' :: r => some ([], r)
  | '\\' :: 'u' :: a :: b :: c :: d :: r => do
    Cut.cons (← scalar? [a, b, c, d]) (basicLines false r)
  | '\\' :: 'U' :: a :: b :: c :: d :: e :: f :: g :: h :: r => do
    Cut.cons (← scalar? [a, b, c, d, e, f, g, h]) (basicLines false r)
  | '\\' :: c :: r =>
    if (newline? (skipBlanks (c :: r))).isSome then basicLines true (c :: r)
    else do Cut.cons (← simpleEscape? c) (basicLines false r)
  | c :: r =>
    if skipping && isBlank c then basicLines true r
    else if isPlain c then Cut.cons c (basicLines false r)
    else none

/-- A literal string of several lines after its opening quotes. -/
def literalLines : List Char → Cut
  | [] => none
  | '\n' :: r => Cut.cons '\n' (literalLines r)
  | '\r' :: '\n' :: r => Cut.cons '\n' (literalLines r)
  | '\'' :: '\'' :: '\'' :: '\'' :: '\'' :: r => some (['\'', '\''], r)
  | '\'' :: '\'' :: '\'' :: '\'' :: r => some (['\''], r)
  | '\'' :: '\'' :: '\'' :: r => some ([], r)
  | c :: r => if isPlain c then Cut.cons c (literalLines r) else none

/-- A line end right after the opening quotes does not count. -/
def dropNewline (s : List Char) : List Char := (newline? s).getD s

/-- A string of any of the four forms. -/
def quoted? : List Char → Cut
  | '"' :: '"' :: '"' :: r => basicLines false (dropNewline r)
  | '\'' :: '\'' :: '\'' :: r => literalLines (dropNewline r)
  | '"' :: r => basic r
  | '\'' :: r => literal r
  | _ => none

def isBare (c : Char) : Bool := c.isAlphanum || c == '-' || c == '_'

def keyPart : List Char → Cut
  | '"' :: r => basic r
  | '\'' :: r => literal r
  | s =>
    if (s.takeWhile isBare).isEmpty then none else some (s.takeWhile isBare, s.dropWhile isBare)

/-- The parts of a key joined by dots, with blanks around them. -/
def keyParts : Nat → List Char → Option (List String × List Char)
  | 0, _ => none
  | fuel + 1, s => do
    let (part, r) ← keyPart (skipBlanks s)
    match skipBlanks r with
    | '.' :: r =>
      let (parts, r) ← keyParts fuel r
      return (String.ofList part :: parts, r)
    | r => return ([String.ofList part], r)

/-- How deep keys and values may nest. -/
def nestingLimit : Nat := 79

/-- The path and the last part of a key. -/
def key? (s : List Char) : Option ((List String × String) × List Char) := do
  let (parts, r) ← keyParts nestingLimit s
  return ((parts.dropLast, ← parts.getLast?), r)

end ZodCatalog.Toml
