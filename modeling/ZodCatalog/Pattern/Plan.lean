import ZodCatalog.Pattern.Basic
import ZodCatalog.Pattern.Runs
import ZodCatalog.Text.Utf8

/-!
What an automaton for a pattern is built from. Neighbouring characters are put together into
texts, alternatives of single characters into sets, and what all alternatives begin with is taken
out of them.
-/

namespace ZodCatalog.Pattern

open Text

inductive Plan
  | empty
  | bytes (bs : List Nat)
  /-- A set of characters, given by its runs; it has none or more than one. -/
  | set (runs : List (Nat × Nat))
  | look (a : Anchor)
  | kept (p : Plan)
  | repeated (p : Plan) (least : Nat) (most : Option Nat)
  /-- One after the other; the first part is no such pair. -/
  | both (p q : Plan)
  /-- One or the other; the first part is no such pair. -/
  | either (p q : Plan)
deriving Repr, DecidableEq, Inhabited

namespace Plan

def never : Plan := set []

/-- How many bytes a character takes. -/
def width (n : Nat) : Nat := (Utf8.encodeChar (Char.ofNat n)).length

/-- The least number of bytes of a match, if there is one. -/
def minLength : Plan → Option Nat
  | empty => some 0
  | bytes bs => some bs.length
  | set runs => runs.head?.map fun r => width r.1
  | look _ => some 0
  | kept p => p.minLength
  | repeated p least _ => p.minLength.map (· * least)
  | both p q => do return (← p.minLength) + (← q.minLength)
  | either p q => do return min (← p.minLength) (← q.minLength)

/-- The greatest number of bytes of a match, if there is one. -/
def maxLength : Plan → Option Nat
  | empty => some 0
  | bytes bs => some bs.length
  | set runs => runs.getLast?.map fun r => width r.2
  | look _ => some 0
  | kept p => p.maxLength
  | repeated p _ most => do return (← p.maxLength) * (← most)
  | both p q => do return (← p.maxLength) + (← q.maxLength)
  | either p q => do return max (← p.maxLength) (← q.maxLength)

/-- Whether every match starts at a place of a kind. -/
def startsAt (a : Anchor) : Plan → Bool
  | look b => b = a
  | kept p => p.startsAt a
  | repeated p least _ => 0 < least && p.startsAt a
  | both p q => p.startsAt a || (p.maxLength = some 0 && q.startsAt a)
  | either p q => p.startsAt a && q.startsAt a
  | _ => false

/-- Whether every match ends at a place of a kind. -/
def endsAt (a : Anchor) : Plan → Bool
  | look b => b = a
  | kept p => p.endsAt a
  | repeated p least _ => 0 < least && p.endsAt a
  | both p q => q.endsAt a || (q.maxLength = some 0 && p.endsAt a)
  | either p q => p.endsAt a && q.endsAt a
  | _ => false

/-! Sets and texts. -/

def ofRuns : List (Nat × Nat) → Plan
  | [(a, b)] => if a = b then bytes (Utf8.encodeChar (Char.ofNat a)) else set [(a, b)]
  | runs => set runs

/-- The character of a text that has one only. -/
def onlyChar? : Plan → Option Nat
  | bytes bs =>
    match Utf8.decode? bs with
    | some [c] => some c.toNat
    | _ => none
  | _ => none

def runs? : Plan → Option (List (Nat × Nat))
  | set runs => some runs
  | _ => none

/-! Sequences. -/

def parts : Plan → List Plan
  | empty => []
  | both p q => p :: q.parts
  | p => [p]

def ofParts : List Plan → Plan
  | [] => empty
  | [p] => p
  | p :: ps => both p (ofParts ps)

/-- Puts neighbouring texts together. -/
def joinTexts : List Plan → List Plan
  | [] => []
  | p :: ps =>
    match p, joinTexts ps with
    | bytes bs, bytes cs :: qs => bytes (bs ++ cs) :: qs
    | p, qs => p :: qs

def sequence (ps : List Plan) : Plan := ofParts (joinTexts (ps.flatMap parts))

/-! Alternatives. -/

def branches : Plan → List Plan
  | either p q => p :: q.branches
  | p => [p]

def ofBranches : List Plan → Plan
  | [] => never
  | [p] => p
  | p :: ps => either p (ofBranches ps)

/-- What two lists have in common at their start. -/
def commonStart : List Plan → List Plan → List Plan
  | p :: ps, q :: qs => if p = q then p :: commonStart ps qs else []
  | _, _ => []

/-- The parts that all of several sequences start with; texts and the like are no sequences. -/
def sharedStart (ps : List Plan) : List Plan :=
  if ps.all fun p => 1 < p.parts.length then
    match ps.map parts with
    | [] => []
    | first :: others => others.foldl commonStart first
  else []

def nodes : Plan → Nat
  | kept p => p.nodes + 1
  | repeated p _ _ => p.nodes + 1
  | both p q => p.nodes + q.nodes + 1
  | either p q => p.nodes + q.nodes + 1
  | _ => 1

/-- Alternatives, where taking out a shared start leaves shorter ones. -/
def chooseWithin : Nat → List Plan → Plan
  | 0, ps => ofBranches ps
  | n + 1, ps =>
    match ps.flatMap branches with
    | [] => never
    | [p] => p
    | ps =>
      match ps.mapM onlyChar?, ps.mapM runs? with
      | some ns, _ => ofRuns (Runs.ofList (ns.map fun n => (n, n)))
      | _, some rs => ofRuns (Runs.ofList rs.flatten)
      | none, none =>
        match sharedStart ps with
        | [] => ofBranches ps
        | start =>
          let rest := ps.map fun p => sequence (p.parts.drop start.length)
          sequence (start ++ [chooseWithin n rest])

def choose (ps : List Plan) : Plan :=
  chooseWithin (ps.foldl (fun n p => n + p.nodes) 0) ps

/-! Repetitions. -/

/-- What matches the empty text only is not repeated more than once. -/
def repetition (p : Plan) (least : Nat) (most : Option Nat) : Plan :=
  let isVoid := p.maxLength = some 0
  let least := if isVoid then min least 1 else least
  let most := if isVoid then some (min (most.getD 1) 1) else most
  if most = some 0 then empty
  else if least = 1 && most = some 1 then p
  else repeated p least most

end Plan

def plans : Pattern → List Plan
  | empty => [.empty]
  | one s => [.ofRuns s.runs]
  | group keeps p => [if keeps then .kept (Plan.choose p.plans) else Plan.choose p.plans]
  | anchor a => [.look a]
  | seq p q => [Plan.sequence [Plan.choose p.plans, Plan.choose q.plans]]
  | either p q => p.plans ++ q.plans
  | repeated p least most => [(Plan.choose p.plans).repetition least most]

def plan (p : Pattern) : Plan := Plan.choose p.plans

end ZodCatalog.Pattern
