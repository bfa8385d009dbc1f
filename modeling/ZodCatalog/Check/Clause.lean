import ZodCatalog.Check.Literal
import ZodCatalog.Pattern.Property

/-!
Value sets in check clauses. Four shapes of a clause limit a column to a set of literals: a
comparison with any element of an array, membership in a list, a chain of equalities joined by
`or`, and containment in an array. They are tried in this order, and any other clause has no
value set.
-/

namespace ZodCatalog.Check

open Text
open Pattern (isWord)

def afterChar? (c : Char) : List Char → Option (List Char)
  | d :: r => if d = c then some r else none
  | [] => none

/-- The rest of a text after a keyword in lower-case ASCII letters, written in either case. -/
def afterKeyword? (keyword : List Char) (s : List Char) : Option (List Char) :=
  if (s.take keyword.length).map Char.toLower = keyword then some (s.drop keyword.length)
  else none

/-- The rest of a text after an optional character and the blanks behind it. -/
def skipChar (c : Char) (s : List Char) : List Char :=
  match afterChar? c s with
  | some r => trimStart r
  | none => s

/-- The elements of an array constructor, up to the first closing bracket. -/
def arrayBody? (s : List Char) : Option (List Char) := do
  let s ← afterKeyword? "array".toList s
  let s ← afterChar? '[' (trimStart s)
  let (body, _) ← cutFirst (· == ']') s
  return body

/-- The array of a comparison with any of its elements that starts the text. -/
def anyArrayHere? (s : List Char) : Option (List Char) := do
  let s ← afterChar? '=' s
  let s ← afterKeyword? "any".toList (trimStart s)
  let s ← afterChar? '(' (trimStart s)
  arrayBody? (skipChar '(' (trimStart s))

/-- The array of the first comparison with any of its elements. -/
def anyArray? : List Char → Option (List Char)
  | [] => none
  | c :: r => (anyArrayHere? (c :: r)).orElse fun _ => anyArray? r

def isColumnChar (c : Char) : Bool := isWord c || c == '$'

/-- A column at the start of a text, its name bare or in double quotes, and what follows it. -/
def columnName? (s : List Char) : Option (List Char × List Char) :=
  let s := (afterChar? '"' s).getD s
  let name := s.takeWhile isColumnChar
  let rest := s.dropWhile isColumnChar
  if name.isEmpty then none else some (name, (afterChar? '"' rest).getD rest)

def afterCast? : List Char → Option (List Char)
  | ':' :: ':' :: r => some r
  | _ => none

/-- The left side of a clause: a column in front of which parentheses may be open. -/
structure Subject where
  column : List Char
  /-- What follows the column and the parentheses closed behind it, or the blanks before a cast. -/
  rest : List Char

def subject? (s : List Char) : Option Subject := do
  let (column, rest) ← columnName? (trimStart (s.dropWhile (· == '(')))
  let unspaced := trimStart rest
  if unspaced.head? == some ')' then return ⟨column, unspaced.dropWhile (· == ')')⟩
  else if (afterCast? unspaced).isSome then return ⟨column, unspaced⟩
  else return ⟨column, rest⟩

def isTypeChar (c : Char) : Bool := isWord c || isBlank c

/-- Characters of a type name, array brackets included. -/
def isArrayTypeChar (c : Char) : Bool := isTypeChar c || c == '[' || c == ']'

/-- What follows a subject with its cast, if it has one; blanks in front of it are dropped. -/
def afterType? (typeChar : Char → Bool) (rest : List Char) : Option (List Char) :=
  match afterCast? rest with
  | some s => if (s.takeWhile typeChar).isEmpty then none else some (s.dropWhile typeChar)
  | none => some (trimStart rest)

/-- Whether a type name and the keyword `in` are all of a text, blanks at its end apart. -/
def endsInKeywordIn (s : List Char) : Bool :=
  match (trimEnd s).reverse with
  | n :: i :: b :: _ :: _ => n.toLower == 'n' && i.toLower == 'i' && isBlank b
  | _ => false

/-- The list behind the keyword `in`, from its opening parenthesis to the end of the text. -/
def operandOfIn? (rest : List Char) : Option (List Char) :=
  match afterCast? rest with
  | some s =>
    let list := s.dropWhile isTypeChar
    if endsInKeywordIn (s.takeWhile isTypeChar) && list.head? == some '(' then some list
    else none
  | none =>
    match rest with
    | c :: r =>
      if isBlank c then do
        let s ← afterKeyword? "in".toList (trimStart r)
        let list := trimStart s
        if list.head? == some '(' then some list else none
      else none
    | [] => none

/-- Column names are compared without double quotes and without regard to ASCII case. -/
def sameColumn (written column : List Char) : Bool :=
  let bare := ((column.dropWhile (· == '"')).reverse.dropWhile (· == '"')).reverse
  eqIgnoringAsciiCase written bare

/-- The literals of a membership test, which has to be the whole clause. -/
def membership? (column : List Char) (s : List Char) : Option (List (List Char)) := do
  let subject ← subject? s
  let list ← operandOfIn? subject.rest
  if sameColumn subject.column column && closesAtEnd .start list then
    some (literalValues (inner list))
  else none

def equality? (column : List Char) (s : List Char) : Option (List Char) := do
  let subject ← subject? s
  let rest ← afterType? isTypeChar subject.rest
  let right ← afterChar? '=' rest
  if sameColumn subject.column column then literalValue? right else none

/-- The literals of a chain of at least two equalities. -/
def equalities? (column : List Char) (s : List Char) : Option (List (List Char)) :=
  let parts := alternatives .start s
  if parts.length < 2 then none
  else parts.mapM fun part => equality? column (stripOuterParens (trim part))

def containment? (column : List Char) (s : List Char) : Option (List (List Char)) := do
  let subject ← subject? s
  let rest ← afterType? isArrayTypeChar subject.rest
  let rest ← afterChar? '<' rest
  let rest ← afterChar? '@' rest
  let body ← arrayBody? (trimStart ((trimStart rest).dropWhile (· == '(')))
  if sameColumn subject.column column then some (literalValues body) else none

/--
The condition of a clause: quotes are freed of backslashes, and the keyword `check` and outer
parentheses are taken off.
-/
def condition (clause : List Char) : List Char :=
  let plain := trim (replacePair '\\' '"' ['"'] (replacePair '\\' '\'' ['\''] clause))
  match afterKeyword? "check".toList plain with
  | some rest => stripOuterParens (trim rest)
  | none => stripOuterParens plain

/-- The literals a condition limits a column to, if it has one of the four shapes. -/
def valueSet? (column : List Char) (s : List Char) : Option (List (List Char)) :=
  ((anyArray? s).map literalValues).orElse fun _ =>
    (membership? column s).orElse fun _ =>
      (equalities? column s).orElse fun _ => containment? column s

def clauseValues (column clause : List Char) : List (List Char) :=
  (valueSet? column (condition clause)).getD []

/-- The values that the clauses of a column allow, in the order of the clauses. -/
def enumValues (column : String) (clauses : List String) : List String :=
  clauses.flatMap fun clause =>
    (clauseValues column.toList clause.toList).map String.ofList

end ZodCatalog.Check
