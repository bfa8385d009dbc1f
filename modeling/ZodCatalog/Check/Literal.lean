import ZodCatalog.Check.Nesting

/-!
Literals in the text of a check: how a list of them is cut, and which value one of them has.
-/

namespace ZodCatalog.Check

open Text

/-- Cuts a list at its commas outside of quotes and parentheses. -/
def commaPieces (n : Nesting) : List Char → List (List Char)
  | [] => [[]]
  | c :: r =>
    if n.isTop && c == ',' then [] :: commaPieces n r else pushHead c (commaPieces (n.next c) r)

/-- The text before the first double colon outside of quotes. -/
def withoutCast (quoted : Bool) : List Char → List Char
  | [] => []
  | c :: r =>
    if c = '\'' then c :: withoutCast (!quoted) r
    else if !quoted && c == ':' && r.head? == some ':' then []
    else c :: withoutCast quoted r

/-- A text that starts and ends with parentheses, whether or not they belong together. -/
def hasParenEnds (s : List Char) : Bool :=
  s.length ≥ 2 && s.head? == some '(' && s.getLast? == some ')'

/-- Takes parentheses off both ends of a text as long as they are there. -/
def stripParenEnds (s : List Char) : List Char :=
  if _h : hasParenEnds s = true then stripParenEnds (trim (inner s)) else s
termination_by s.length
decreasing_by
  simp only [hasParenEnds, Bool.and_eq_true] at _h
  exact Nat.lt_of_le_of_lt (length_trim_le _) (length_inner_lt (ne_nil_of_head? _h.1.2))

def isEnclosedBy (quote : Char) (s : List Char) : Bool :=
  s.length ≥ 2 && s.head? == some quote && s.getLast? == some quote

/-- The value of a text without parentheses and cast. A quote in a quoted value is doubled. -/
def unquote (s : List Char) : List Char :=
  if isEnclosedBy '\'' s then replacePair '\'' '\'' ['\''] (inner s)
  else if isEnclosedBy '"' s then inner s
  else s

/-- The value of a literal, which may stand in parentheses and have a cast; never empty. -/
def literalValue? (s : List Char) : Option (List Char) :=
  let value := unquote (stripParenEnds (trim (withoutCast false (stripParenEnds (trim s)))))
  if value.isEmpty then none else some value

/-- The values of a list of literals; empty ones are passed over. -/
def literalValues (s : List Char) : List (List Char) :=
  (commaPieces .start s).filterMap literalValue?

def quoteLiteral (value : List Char) : List Char :=
  '\'' :: value.flatMap (fun c => if c = '\'' then ['\'', '\''] else [c]) ++ ['\'']

theorem literalValue?_ne_nil {s v : List Char} (h : literalValue? s = some v) : v ≠ [] := by
  simp only [literalValue?] at h
  split at h
  · exact absurd h (by simp)
  · rename_i hne
    rintro rfl
    simp_all

end ZodCatalog.Check
