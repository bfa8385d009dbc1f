import ZodCatalog.Pattern.Property

/-!
Patterns for relation names. A pattern matches a text if it matches some part of it.
-/

namespace ZodCatalog

/-- A condition on a place in a text. -/
inductive Pattern.Anchor
  | textStart
  | textEnd
  /-- After a line feed or at the start; `crlf` takes carriage returns as line ends too. -/
  | lineStart (crlf : Bool)
  | lineEnd (crlf : Bool)
  | wordBoundary (ascii : Bool)
  | notWordBoundary (ascii : Bool)
  | wordStart (ascii : Bool)
  | wordEnd (ascii : Bool)
  | beforeWord (ascii : Bool)
  | afterWord (ascii : Bool)
deriving Repr, DecidableEq

inductive Pattern
  | empty
  | one (s : Pattern.CharSet)
  /-- A part that was put in brackets, and whether it keeps what it matched. -/
  | group (keeps : Bool) (p : Pattern)
  | anchor (a : Pattern.Anchor)
  | seq (p q : Pattern)
  | either (p q : Pattern)
  /-- At least `least` times and, with a bound, at most that often. -/
  | repeated (p : Pattern) (least : Nat) (most : Option Nat)
deriving Repr, DecidableEq, Inhabited

namespace Pattern

namespace Anchor

def wordAt (ascii : Bool) : Option Char → Bool
  | some c => if ascii then CharSet.asciiWord.has c else isWord c
  | none => false

/-- Whether the condition holds between two neighbours, missing at the ends of a text. -/
def holds (a : Anchor) (prev next : Option Char) : Bool :=
  match a with
  | textStart => prev.isNone
  | textEnd => next.isNone
  | lineStart false => prev.isNone || prev == some '\n'
  | lineStart true =>
    prev.isNone || prev == some '\n' || (prev == some '\r' && next != some '\n')
  | lineEnd false => next.isNone || next == some '\n'
  | lineEnd true =>
    next.isNone || next == some '\r' || (next == some '\n' && prev != some '\r')
  | wordBoundary ascii => wordAt ascii prev != wordAt ascii next
  | notWordBoundary ascii => wordAt ascii prev == wordAt ascii next
  | wordStart ascii => !wordAt ascii prev && wordAt ascii next
  | wordEnd ascii => wordAt ascii prev && !wordAt ascii next
  | beforeWord ascii => !wordAt ascii prev
  | afterWord ascii => !wordAt ascii next

end Anchor

def sequence : List Pattern → Pattern
  | [] => empty
  | [p] => p
  | p :: ps => seq p (sequence ps)

def choice : List Pattern → Pattern
  | [] => empty
  | [p] => p
  | p :: ps => either p (choice ps)

end Pattern

end ZodCatalog
