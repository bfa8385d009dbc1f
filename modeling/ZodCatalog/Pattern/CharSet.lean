import ZodCatalog.Pattern.Folding
import ZodCatalog.Text.Category

/-!
Sets of characters as patterns describe them.
-/

namespace ZodCatalog.Pattern

open Text

inductive CharSet
  | range (first last : Nat)
  | spans (table : List Span)
  | complement (s : CharSet)
  | union (s t : CharSet)
  | inter (s t : CharSet)
  /-- The characters that differ from one of the set in case only. -/
  | folded (s : CharSet)
deriving Repr, DecidableEq, Inhabited

namespace CharSet

def has : CharSet → Char → Bool
  | range first last, c => first ≤ c.toNat && c.toNat ≤ last
  | spans table, c => inSpans table c
  | complement s, c => !s.has c
  | union s t, c => s.has c || t.has c
  | inter s t, c => s.has c && t.has c
  | folded s, c => (caseVariants c).any s.has

def none : CharSet := range 1 0

def any : CharSet := range 0 0x10FFFF

def single (c : Char) : CharSet := range c.toNat c.toNat

def unions : List CharSet → CharSet
  | [] => none
  | [s] => s
  | s :: ss => union s (unions ss)

def diff (s t : CharSet) : CharSet := inter s (complement t)

def symmDiff (s t : CharSet) : CharSet := union (diff s t) (diff t s)

@[simp] theorem has_complement (s : CharSet) (c : Char) : (complement s).has c = !s.has c := rfl

@[simp] theorem has_union (s t : CharSet) (c : Char) :
    (union s t).has c = (s.has c || t.has c) := rfl

@[simp] theorem has_inter (s t : CharSet) (c : Char) :
    (inter s t).has c = (s.has c && t.has c) := rfl

@[simp] theorem has_diff (s t : CharSet) (c : Char) : (diff s t).has c = (s.has c && !t.has c) :=
  rfl

theorem has_unions (ss : List CharSet) (c : Char) : (unions ss).has c = ss.any (·.has c) := by
  induction ss with
  | nil => simp [unions, none, has]; omega
  | cons s ss ih =>
    cases ss with
    | nil => simp [unions]
    | cons t ts => simp [unions, ih]

/-! Sets of ASCII characters. -/

def ascii : CharSet := range 0 0x7F

def asciiDigit : CharSet := range 0x30 0x39

def asciiUpper : CharSet := range 0x41 0x5A

def asciiLower : CharSet := range 0x61 0x7A

def asciiAlpha : CharSet := union asciiUpper asciiLower

def asciiAlnum : CharSet := union asciiDigit asciiAlpha

def asciiWord : CharSet := union asciiAlnum (single '_')

def asciiBlank : CharSet := union (range 9 13) (single ' ')

def asciiClasses : List (String × CharSet) :=
  [("alnum", asciiAlnum), ("alpha", asciiAlpha), ("ascii", ascii),
   ("blank", union (single '\t') (single ' ')), ("cntrl", union (range 0 0x1F) (single '\x7f')),
   ("digit", asciiDigit), ("graph", range 0x21 0x7E), ("lower", asciiLower),
   ("print", range 0x20 0x7E),
   ("punct", unions [range 0x21 0x2F, range 0x3A 0x40, range 0x5B 0x60, range 0x7B 0x7E]),
   ("space", asciiBlank), ("upper", asciiUpper), ("word", asciiWord),
   ("xdigit", unions [asciiDigit, range 0x41 0x46, range 0x61 0x66])]

/-- Whether a set of single bytes holds ASCII characters only. -/
def isAsciiOnly (s : CharSet) : Bool :=
  (List.range 128).all fun k => !s.has (Char.ofNat (128 + k))

/-! Sets of general categories. -/

/-- All but the characters of the newest edition. -/
def known : CharSet := complement (spans newestSpans)

/-- The reversed glottal stop, which counted as lower case before the newest edition. -/
def glottalStop : CharSet := single '\u0295'

/-- The characters of a category as far as patterns know them. -/
def category (k : Category) : CharSet :=
  let table := inter (spans k.spans) known
  match k with
  | .lowercaseLetter => union table glottalStop
  | .otherLetter => diff table glottalStop
  | _ => table

def categories (ks : List Category) : CharSet := unions (ks.map category)

end CharSet

end ZodCatalog.Pattern
