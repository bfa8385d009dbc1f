import ZodCatalog.Pattern.Basic

/-!
Where patterns match. A pattern laid over a text keeps of its sets and anchors only the places
where they hold, so that no character is looked up twice. Places count the characters in front of
them, and a set of places is a number with the binary digits of its members.
-/

namespace ZodCatalog.Pattern

/-! Sets of places. -/

/-- The places below a bound where `f` holds. -/
def placesWhere (f : Nat → Bool) : Nat → Nat
  | 0 => 0
  | n + 1 => if f n then placesWhere f n ||| 1 <<< n else placesWhere f n

theorem testBit_placesWhere (f : Nat → Bool) (bound i : Nat) :
    (placesWhere f bound).testBit i = (decide (i < bound) && f i) := by
  induction bound with
  | zero => simp [placesWhere]
  | succ n ih =>
    have hn : (1 <<< n).testBit i = decide (n = i) := by
      rw [Nat.one_shiftLeft, Nat.testBit_two_pow]
    by_cases hi : n = i
    · subst hi
      by_cases hf : f n <;> simp [placesWhere, ih, hf, hn]
    · have hlt : decide (i < n + 1) = decide (i < n) := by
        simp only [decide_eq_decide]
        omega
      rw [hlt, placesWhere]
      by_cases hf : f n <;> simp [ih, hf, hn, hi]

/-- The places of one set that are not in another. -/
def without (s t : Nat) : Nat := (s ||| t) ^^^ t

theorem testBit_without (s t i : Nat) :
    (without s t).testBit i = (s.testBit i && !t.testBit i) := by
  rw [without, Nat.testBit_xor, Nat.testBit_or]
  cases s.testBit i <;> cases t.testBit i <;> rfl

/-- `step` applied so many times; a set that it leaves as it is stays. -/
def iterate (step : Nat → Nat) : Nat → Nat → Nat
  | 0, s => s
  | n + 1, s => if step s = s then s else iterate step n (step s)

/-- The places seen, and those that up to so many steps reach from the last of them. -/
def spread (step : Nat → Nat) : Nat → (seen last : Nat) → Nat
  | 0, seen, _ => seen
  | n + 1, seen, last =>
    let found := without (step last) seen
    if found = 0 then seen else spread step n (seen ||| found) found

/-! Patterns laid over a text. -/

inductive Overlay
  | stay
  /-- On to the next place from the places of a set. -/
  | advance (places : Nat)
  /-- No further from the places of a set. -/
  | hold (places : Nat)
  | seq (p q : Overlay)
  | either (p q : Overlay)
  | repeated (p : Overlay) (least : Nat) (most : Option Nat)
deriving Repr, DecidableEq

/-- A pattern repeated. Without a bound, repeating a repetition is one repetition. -/
def Overlay.rounds (least : Nat) (most : Option Nat) : Overlay → Overlay
  | repeated p inner none =>
    if least ≤ 1 ∧ inner ≤ 1 ∧ most.isNone then repeated p (min least inner) none
    else repeated (repeated p inner none) least most
  | p => repeated p least most

def overlay (text : Array Char) : Pattern → Overlay
  | empty => .stay
  | one s => .advance (placesWhere (fun i => text[i]?.any s.has) text.size)
  | group _ p => overlay text p
  | anchor a =>
    .hold (placesWhere (fun i => a.holds (if i = 0 then none else text[i - 1]?) text[i]?)
      (text.size + 1))
  | seq p q => .seq (overlay text p) (overlay text q)
  | either p q => .either (overlay text p) (overlay text q)
  | repeated p least most => (overlay text p).rounds least most

/--
The places where matches from some places can end. A repetition need not be followed further than
the text is long: of more rounds some match nothing, and others like them can stand in for them.
-/
def Overlay.ends (size : Nat) : Overlay → Nat → Nat
  | stay, s => s
  | advance places, s => (s &&& places) <<< 1
  | hold places, s => s &&& places
  | seq p q, s => q.ends size (p.ends size s)
  | either p q, s => p.ends size s ||| q.ends size s
  | repeated p least most, s =>
    let first := iterate (p.ends size) (min least (size + 1)) s
    spread (p.ends size) (most.elim (size + 1) fun n => min (n - least) (size + 1)) first first

namespace Overlay

theorem testBit_ends_advance (size places s i : Nat) :
    ((advance places).ends size s).testBit (i + 1) = (s.testBit i && places.testBit i) := by
  rw [ends, Nat.testBit_shiftLeft]
  simp

theorem testBit_ends_hold (size places s i : Nat) :
    ((hold places).ends size s).testBit i = (s.testBit i && places.testBit i) := by
  rw [ends, Nat.testBit_and]

theorem testBit_ends_either (size : Nat) (p q : Overlay) (s i : Nat) :
    ((either p q).ends size s).testBit i =
      ((p.ends size s).testBit i || (q.ends size s).testBit i) := by
  rw [ends, Nat.testBit_or]

end Overlay

/-- Whether some part of a text matches. -/
def matchesIn (p : Pattern) (s : String) : Bool :=
  let text := s.toList.toArray
  (overlay text p).ends text.size (placesWhere (fun _ => true) (text.size + 1)) != 0

end ZodCatalog.Pattern
