import ZodCatalog.Text.Blank
import ZodCatalog.Text.Split

/-!
Parentheses and single quotes in the text of a check. Parentheses inside quotes do not count, and
a closing parenthesis with nothing open is passed over.
-/

namespace ZodCatalog.Check

open Text

/-- How many parentheses are open, and whether a quote is. -/
structure Nesting where
  depth : Nat
  quoted : Bool
deriving Repr, DecidableEq

namespace Nesting

def start : Nesting := ⟨0, false⟩

def next (n : Nesting) (c : Char) : Nesting :=
  if c = '\'' then { n with quoted := !n.quoted }
  else if n.quoted then n
  else if c = '(' then { n with depth := n.depth + 1 }
  else if c = ')' then { n with depth := n.depth - 1 }
  else n

def isTop (n : Nesting) : Bool := n.depth == 0 && !n.quoted

end Nesting

/-- Whether the first closing parenthesis that leaves none open is the last character. -/
def closesAtEnd (n : Nesting) : List Char → Bool
  | [] => false
  | c :: r =>
    if c = ')' && (n.next c).isTop then r.isEmpty else closesAtEnd (n.next c) r

/-- A text in one pair of parentheses. -/
def isWrapped (s : List Char) : Bool :=
  s.head? == some '(' && s.getLast? == some ')' && closesAtEnd .start s

def inner (s : List Char) : List Char := s.tail.dropLast

theorem length_inner_lt {s : List Char} (h : s ≠ []) : (inner s).length < s.length := by
  cases s with
  | nil => exact absurd rfl h
  | cons c r =>
    show r.dropLast.length < r.length + 1
    rw [List.length_dropLast]
    omega

theorem ne_nil_of_head? {s : List Char} {c : Char} (h : (s.head? == some c) = true) : s ≠ [] := by
  rintro rfl
  simp at h

/-- Removes the parentheses around the whole text, as often as there are any. -/
def stripOuterParens (s : List Char) : List Char :=
  if _h : isWrapped s = true then stripOuterParens (trim (inner s)) else s
termination_by s.length
decreasing_by
  simp only [isWrapped, Bool.and_eq_true] at _h
  exact Nat.lt_of_le_of_lt (length_trim_le _) (length_inner_lt (ne_nil_of_head? _h.1.1))

/-- The four characters between two alternatives. -/
def isOrSeparator (a b c d : Char) : Bool :=
  a == ' ' && b.toLower == 'o' && c.toLower == 'r' && d == ' '

/--
The alternatives of a text: it is cut at each separator outside of quotes and parentheses that
has something after it.
-/
def alternatives (n : Nesting) : List Char → List (List Char)
  | a :: b :: c :: d :: e :: r =>
    if n.isTop && isOrSeparator a b c d then [] :: alternatives n (e :: r)
    else pushHead a (alternatives (n.next a) (b :: c :: d :: e :: r))
  | a :: r => pushHead a (alternatives (n.next a) r)
  | [] => [[]]

end ZodCatalog.Check
