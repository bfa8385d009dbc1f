import ZodCatalog.Pattern.CharSet

/-!
The code points of a set as runs: first and last of each, in rising order, no two of them
touching. A set has one such form.
-/

namespace ZodCatalog.Pattern

open Text

namespace Runs

/-- Puts runs together that overlap or touch; they come ordered by their first code point. -/
def join : List (Nat × Nat) → List (Nat × Nat)
  | (a, b) :: (c, d) :: r =>
    if c ≤ b + 1 then join ((a, max b d) :: r) else (a, b) :: join ((c, d) :: r)
  | r => r
termination_by r => r.length

/-- The runs of the code points that are in any of the given spans. -/
def ofList (spans : List (Nat × Nat)) : List (Nat × Nat) :=
  join ((spans.filter fun r => r.1 ≤ r.2).mergeSort fun r s => r.1 ≤ s.1)

def union (r s : List (Nat × Nat)) : List (Nat × Nat) := ofList (r ++ s)

/-- What lies between runs, from a code point up to the last one there is. -/
def gaps (next : Nat) : List (Nat × Nat) → List (Nat × Nat)
  | [] => if next ≤ 0x10FFFF then [(next, 0x10FFFF)] else []
  | (a, b) :: r => if next < a then (next, a - 1) :: gaps (b + 1) r else gaps (b + 1) r

def complement (r : List (Nat × Nat)) : List (Nat × Nat) := gaps 0 r

def inter (r s : List (Nat × Nat)) : List (Nat × Nat) :=
  complement (union (complement r) (complement s))

def has (r : List (Nat × Nat)) (n : Nat) : Bool := r.any fun (a, b) => a ≤ n && n ≤ b

/-- Surrogates are code points, but no characters. -/
def surrogates : List (Nat × Nat) := [(0xD800, 0xDFFF)]

def codePoints (s : Span) : List Nat :=
  (List.range ((s.last - s.first) / s.step + 1)).map fun k => s.first + k * s.step

def ofSpan (s : Span) : List (Nat × Nat) :=
  if s.step = 1 then [(s.first, s.last)] else (codePoints s).map fun n => (n, n)

/-- Each character that folding moves, with the one that stands for it. -/
def foldedPairs : List (Nat × Nat) :=
  (codePoints ⟨0x41, 0x5A, 1⟩).map (fun n => (n, n + 32)) ++
  (loweringShifts.flatMap fun s =>
    ((codePoints ⟨s.first, s.last, s.step⟩).filter fun n => !isNewest (Char.ofNat n)).map
      fun n => (n, s.target n)) ++ foldedApart

/-- The runs together with the characters that differ in case only. -/
def folded (r : List (Nat × Nat)) : List (Nat × Nat) :=
  let kept := (foldedPairs.filter fun (n, f) => has r n || has r f).map Prod.snd
  let others := foldedPairs.filter fun (_, f) => kept.contains f
  ofList (r ++ kept.map (fun f => (f, f)) ++ others.map fun (n, _) => (n, n))

@[simp] theorem join_nil : join [] = [] := by simp [join]

end Runs

namespace CharSet

def codeRuns : CharSet → List (Nat × Nat)
  | range first last => Runs.ofList [(first, last)]
  | spans table => Runs.ofList (table.flatMap Runs.ofSpan)
  | complement s => Runs.complement s.codeRuns
  | union s t => Runs.union s.codeRuns t.codeRuns
  | inter s t => Runs.inter s.codeRuns t.codeRuns
  | folded s => Runs.folded s.codeRuns

def runs (s : CharSet) : List (Nat × Nat) :=
  Runs.inter s.codeRuns (Runs.complement Runs.surrogates)

end CharSet

end ZodCatalog.Pattern
