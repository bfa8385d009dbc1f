/-!
Sets of code points written as evenly spaced spans, the form in which the tables of character
properties are kept.
-/

namespace ZodCatalog.Text

/-- The code points `first`, `first + step`, … up to `last`. -/
structure Span where
  first : Nat
  last : Nat
  step : Nat
deriving Repr, DecidableEq

namespace Span

def contains (s : Span) (n : Nat) : Bool :=
  s.first ≤ n && n ≤ s.last && (n - s.first) % s.step == 0

theorem contains_iff {s : Span} {n : Nat} :
    s.contains n = true ↔ s.first ≤ n ∧ n ≤ s.last ∧ (n - s.first) % s.step = 0 := by
  simp [contains, and_assoc]

end Span

def inSpans (table : List Span) (c : Char) : Bool :=
  table.any (·.contains c.toNat)

theorem inSpans_iff {table : List Span} {c : Char} :
    inSpans table c = true ↔ ∃ s ∈ table, s.contains c.toNat = true := by
  simp [inSpans]

/-- A table that starts above a code point does not hold it. -/
theorem inSpans_eq_false_of_lt {table : List Span} {c : Char} {bound : Nat}
    (h : ∀ s ∈ table, bound ≤ s.first) (hc : c.toNat < bound) : inSpans table c = false := by
  rw [Bool.eq_false_iff]
  intro hmem
  obtain ⟨s, hs, hin⟩ := inSpans_iff.1 hmem
  have := h s hs
  have := (Span.contains_iff.1 hin).1
  omega

/-- A span of code points that are all moved by the same distance. -/
structure Shift where
  first : Nat
  last : Nat
  step : Nat
  distance : Int
deriving Repr, DecidableEq

namespace Shift

def contains (s : Shift) (n : Nat) : Bool :=
  s.first ≤ n && n ≤ s.last && (n - s.first) % s.step == 0

def target (s : Shift) (n : Nat) : Nat :=
  (n + s.distance).toNat

end Shift

/-- The image of a character under the first span that holds it, or the character itself. -/
def shifted (table : List Shift) (c : Char) : Char :=
  match table.find? (·.contains c.toNat) with
  | some s => Char.ofNat (s.target c.toNat)
  | none => c

end ZodCatalog.Text
