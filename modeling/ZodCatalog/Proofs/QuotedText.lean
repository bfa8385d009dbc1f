import Mathlib.Data.List.Basic
import ZodCatalog.Check.Literal

/-! Quoted values under the scans of a check. Every scan passes over a quoted value, whatever
characters it holds, and over balanced parentheses once it is inside of some. -/

namespace ZodCatalog.Check
open Text

/-- What is computed of each character of a text holds of all of them. -/
theorem forall_mem_of_all {p : Char → Prop} [DecidablePred p] {s : List Char}
    (h : (s.all fun c => decide (p c)) = true) : ∀ c ∈ s, p c := by
  simpa using h

/-- A value with each of its quotes twice. -/
def doubled (v : List Char) : List Char := v.flatMap fun c => if c = '\'' then ['\'', '\''] else [c]

theorem quoteLiteral_eq (v : List Char) : quoteLiteral v = '\'' :: (doubled v ++ ['\'']) := rfl

@[simp] theorem doubled_nil : doubled [] = [] := rfl

@[simp] theorem doubled_quote (r : List Char) :
    doubled ('\'' :: r) = '\'' :: '\'' :: doubled r := rfl

theorem doubled_cons {c : Char} (h : c ≠ '\'') (r : List Char) :
    doubled (c :: r) = c :: doubled r := by
  simp [doubled, h]

theorem doubled_append (a b : List Char) : doubled (a ++ b) = doubled a ++ doubled b :=
  List.flatMap_append ..

theorem doubled_reverse (v : List Char) : doubled v.reverse = (doubled v).reverse := by
  induction v with
  | nil => rfl
  | cons c r ih =>
    rw [List.reverse_cons, doubled_append, ih]
    by_cases hc : c = '\''
    · subst hc
      simp
    · simp [doubled_cons hc]

theorem doubled_eq_self {v : List Char} (h : '\'' ∉ v) : doubled v = v := by
  induction v with
  | nil => rfl
  | cons c r ih =>
    have hc : c ≠ '\'' := fun e => h (e ▸ List.mem_cons_self)
    rw [doubled_cons hc, ih fun hr => h (List.mem_cons_of_mem _ hr)]

theorem mem_doubled {c : Char} {v : List Char} : c ∈ doubled v ↔ c ∈ v := by
  have hq (d : Char) : c ∈ (if d = '\'' then ['\'', '\''] else [d]) ↔ c = d := by
    split <;> simp_all
  simp [doubled, List.mem_flatMap, hq]

/-- Puts a text in front of the first piece. -/
def pushText (s : List Char) (pieces : List (List Char)) : List (List Char) :=
  s.foldr pushHead pieces

theorem pushText_append (s t : List Char) (pieces : List (List Char)) :
    pushText (s ++ t) pieces = pushText s (pushText t pieces) := List.foldr_append ..

theorem pushText_cons_piece (s piece : List Char) (pieces : List (List Char)) :
    pushText s (piece :: pieces) = (s ++ piece) :: pieces := by
  induction s with
  | nil => rfl
  | cons c r ih => exact congrArg (pushHead c) ih

namespace Nesting

theorem next_quote (d : Nat) (q : Bool) : next ⟨d, q⟩ '\'' = ⟨d, !q⟩ := rfl

theorem next_quoted {c : Char} (h : c ≠ '\'') (d : Nat) : next ⟨d, true⟩ c = ⟨d, true⟩ := by
  simp [next, h]

theorem next_open (d : Nat) : next ⟨d, false⟩ '(' = ⟨d + 1, false⟩ := rfl

theorem next_plain {c : Char} (h : c ∉ ['\'', '(', ')']) (d : Nat) :
    next ⟨d, false⟩ c = ⟨d, false⟩ := by
  simp only [List.mem_cons, List.not_mem_nil, or_false, not_or] at h
  simp [next, h]

/-- Whether a text closes what is open and all that it opens itself. -/
def settles : Nesting → List Char → Bool
  | n, [] => n.isTop
  | n, c :: r => !(n.isTop && c == ')') && settles (n.next c) r

theorem settles_quote (d : Nat) (q : Bool) (r : List Char) :
    settles ⟨d, q⟩ ('\'' :: r) = settles ⟨d, !q⟩ r := by
  simp [settles, next_quote]

theorem settles_quoted {c : Char} (h : c ≠ '\'') (d : Nat) (r : List Char) :
    settles ⟨d, true⟩ (c :: r) = settles ⟨d, true⟩ r := by
  simp [settles, next_quoted h, isTop]

theorem settles_open (d : Nat) (r : List Char) :
    settles ⟨d, false⟩ ('(' :: r) = settles ⟨d + 1, false⟩ r := by
  simp [settles, next_open]

theorem settles_close (d : Nat) (r : List Char) :
    settles ⟨d, false⟩ (')' :: r) = (d != 0 && settles ⟨d - 1, false⟩ r) := by
  simp [settles, next, isTop, bne]

theorem settles_plain {c : Char} (h : c ∉ ['\'', '(', ')']) (d : Nat) (r : List Char) :
    settles ⟨d, false⟩ (c :: r) = settles ⟨d, false⟩ r := by
  have hclose : c ≠ ')' := by
    rintro rfl
    simp at h
  simp [settles, next_plain h, hclose]

end Nesting

open Nesting

/-- Texts whose quotes are closed and whose parentheses outside of quotes belong together. -/
inductive Balanced : List Char → Prop
  | nil : Balanced []
  | plain {c : Char} {r : List Char} (hc : c ∉ ['\'', '(', ')']) : Balanced r → Balanced (c :: r)
  | literal (v : List Char) {r : List Char} : Balanced r → Balanced (quoteLiteral v ++ r)
  | group {s r : List Char} : Balanced s → Balanced r → Balanced ('(' :: (s ++ ')' :: r))

namespace Balanced

theorem append {s t : List Char} (hs : Balanced s) (ht : Balanced t) : Balanced (s ++ t) := by
  induction hs with
  | nil => exact ht
  | plain hc _ ih => exact .plain hc ih
  | literal v _ ih =>
    rw [List.append_assoc]
    exact .literal v ih
  | @group s r hs _ _ ih =>
    rw [List.cons_append, List.append_assoc, List.cons_append]
    exact .group hs ih

theorem of_plain {s : List Char} (h : ∀ c ∈ s, c ∉ ['\'', '(', ')']) : Balanced s := by
  induction s with
  | nil => exact .nil
  | cons c r ih => exact .plain (h c List.mem_cons_self) (ih fun d hd => h d (.tail _ hd))

theorem of_all {s : List Char} (h : (s.all fun c => decide (c ∉ ['\'', '(', ')'])) = true) :
    Balanced s := of_plain (forall_mem_of_all h)

theorem quoteLiteral (v : List Char) : Balanced (quoteLiteral v) := by
  simpa using Balanced.literal v .nil

/-- Texts that are balanced after some opening parentheses. -/
inductive Closes : Nat → List Char → Prop
  | done {s : List Char} : Balanced s → Closes 0 s
  | close {n : Nat} {s r : List Char} : Balanced s → Closes n r → Closes (n + 1) (s ++ ')' :: r)

theorem Closes.prepend {n : Nat} {s r : List Char} (hs : Balanced s) (hr : Closes n r) :
    Closes n (s ++ r) := by
  cases hr with
  | done hr => exact .done (hs.append hr)
  | close ht hr =>
    rw [← List.append_assoc]
    exact .close (hs.append ht) hr

/-- A text that closes an open quote, cut where it does. -/
theorem cut_quoted {d : Nat} {s : List Char} (h : settles ⟨d, true⟩ s = true) :
    ∃ v r, s = v ++ '\'' :: r ∧ '\'' ∉ v ∧ settles ⟨d, false⟩ r = true := by
  induction s with
  | nil => simp [settles, isTop] at h
  | cons c s ih =>
    by_cases hc : c = '\''
    · subst hc
      rw [settles_quote] at h
      exact ⟨[], s, rfl, List.not_mem_nil, h⟩
    · rw [Nesting.settles_quoted hc] at h
      obtain ⟨v, r, rfl, hv, hr⟩ := ih h
      exact ⟨c :: v, r, rfl, by simp [hv, Ne.symm hc], hr⟩

theorem closes_of_settles {n : Nat} {s : List Char} (h : settles ⟨n, false⟩ s = true) :
    Closes n s := by
  match s with
  | [] =>
    obtain rfl : n = 0 := by simpa [settles, isTop] using h
    exact .done .nil
  | c :: s =>
    by_cases hquote : c = '\''
    · subst hquote
      rw [settles_quote] at h
      obtain ⟨v, r, rfl, hv, hr⟩ := cut_quoted h
      have hliteral : '\'' :: (v ++ '\'' :: r) = Check.quoteLiteral v ++ r := by
        simp [quoteLiteral_eq, doubled_eq_self hv]
      rw [hliteral]
      exact (closes_of_settles hr).prepend (.quoteLiteral v)
    by_cases hopen : c = '('
    · subst hopen
      rw [settles_open] at h
      cases closes_of_settles h with
      | @close _ t r ht hr =>
        have hgroup : Balanced ('(' :: (t ++ [')'])) := .group ht .nil
        have htext : '(' :: (t ++ ')' :: r) = '(' :: (t ++ [')']) ++ r := by simp
        rw [htext]
        exact hr.prepend hgroup
    by_cases hclose : c = ')'
    · subst hclose
      rw [settles_close, Bool.and_eq_true, bne_iff_ne] at h
      obtain ⟨m, rfl⟩ := Nat.exists_eq_succ_of_ne_zero h.1
      exact .close .nil (closes_of_settles h.2)
    · have hplain : c ∉ ['\'', '(', ')'] := by simp [hquote, hopen, hclose]
      rw [settles_plain hplain] at h
      have hsingle : Balanced [c] := .plain hplain .nil
      exact (closes_of_settles h).prepend hsingle
termination_by s.length

theorem of_settles {s : List Char} (h : settles .start s = true) : Balanced s := by
  cases closes_of_settles h with
  | done hs => exact hs

end Balanced

/-- A scan that treats a character by `put` wherever it can neither cut the text nor stop: at
quotes, and between two states of which none is at the top. -/
structure PassesInside {α : Type} (scan : Nesting → List Char → α) (put : Char → α → α) : Prop where
  step : ∀ (n : Nesting) (c : Char) (r : List Char),
    c = '\'' ∨ (n.isTop = false ∧ (n.next c).isTop = false) →
      scan n (c :: r) = put c (scan (n.next c) r)

namespace PassesInside

variable {α : Type} {scan : Nesting → List Char → α} {put : Char → α → α}

theorem doubled (h : PassesInside scan put) (d : Nat) (v r : List Char) :
    scan ⟨d, true⟩ (Check.doubled v ++ r) = (Check.doubled v).foldr put (scan ⟨d, true⟩ r) := by
  induction v with
  | nil => rfl
  | cons c v ih =>
    by_cases hc : c = '\''
    · subst hc
      rw [doubled_quote, List.cons_append, List.cons_append, h.step _ _ _ (.inl rfl),
        h.step _ _ _ (.inl rfl), Nesting.next_quote, Nesting.next_quote, Bool.not_not, ih]
      rfl
    · have hn := Nesting.next_quoted hc d
      rw [doubled_cons hc, List.cons_append, h.step _ _ _ (.inr ⟨by simp [Nesting.isTop], by
        simp [hn, Nesting.isTop]⟩), hn, ih]
      rfl

theorem quoteLiteral (h : PassesInside scan put) (d : Nat) (v r : List Char) :
    scan ⟨d, false⟩ (quoteLiteral v ++ r) = (quoteLiteral v).foldr put (scan ⟨d, false⟩ r) := by
  rw [quoteLiteral_eq, List.cons_append, List.append_assoc, h.step _ _ _ (.inl rfl),
    Nesting.next_quote, Bool.not_false, h.doubled, List.singleton_append,
    h.step _ _ _ (.inl rfl), Nesting.next_quote, List.foldr_cons, List.foldr_append]
  rfl

theorem balanced (h : PassesInside scan put) {s : List Char} (hs : Balanced s) (d : Nat)
    (r : List Char) : scan ⟨d + 1, false⟩ (s ++ r) = s.foldr put (scan ⟨d + 1, false⟩ r) := by
  induction hs generalizing d r with
  | nil => rfl
  | plain hc _ ih =>
    have hn := Nesting.next_plain hc (d + 1)
    rw [List.cons_append, h.step _ _ _ (.inr ⟨rfl, by rw [hn]; rfl⟩), hn, ih]
    rfl
  | literal v _ ih =>
    rw [List.append_assoc, h.quoteLiteral, ih, List.foldr_append]
  | @group s t _ _ ihs iht =>
    have hclose : scan ⟨d + 2, false⟩ (')' :: (t ++ r)) = put ')' (scan ⟨d + 1, false⟩ (t ++ r)) :=
      h.step _ _ _ (.inr ⟨rfl, rfl⟩)
    rw [List.cons_append, List.append_assoc, h.step _ _ _ (.inr ⟨rfl, rfl⟩), Nesting.next_open,
      ihs, List.cons_append, hclose, iht, List.foldr_cons, List.foldr_append, List.foldr_cons]

end PassesInside

theorem passesInside_settles : PassesInside settles fun _ b => b where
  step n c r h := by
    rw [settles]
    rcases h with rfl | ⟨h, -⟩
    · simp
    · simp [h]

theorem Balanced.settles_append {s : List Char} (hs : Balanced s) (d : Nat) (r : List Char) :
    settles ⟨d, false⟩ (s ++ r) = settles ⟨d, false⟩ r := by
  induction hs generalizing r with
  | nil => rfl
  | plain hc _ ih => rw [List.cons_append, settles_plain hc, ih]
  | literal v _ ih =>
    rw [List.append_assoc, passesInside_settles.quoteLiteral, ih]
    simp
  | @group s t hs _ _ ih =>
    rw [List.cons_append, List.append_assoc, settles_open, passesInside_settles.balanced hs,
      List.cons_append, settles_close]
    simp [ih]

/-- Balance is decided by one pass. -/
theorem balanced_iff_settles {s : List Char} : Balanced s ↔ settles .start s = true := by
  refine ⟨fun h => ?_, .of_settles⟩
  have hs := h.settles_append 0 []
  rw [List.append_nil] at hs
  exact hs

theorem passesInside_closesAtEnd : PassesInside closesAtEnd fun _ b => b where
  step n c r h := by
    rw [closesAtEnd, if_neg]
    rcases h with rfl | ⟨-, h⟩
    · simp
    · simp [h]

/-- An alternative goes on unless a separator starts at the character. -/
theorem alternatives_cons {n : Nesting} {c : Char} {r : List Char}
    (h : n.isTop = false ∨ c ≠ ' ' ∨ r.head?.map Char.toLower ≠ some 'o') :
    alternatives n (c :: r) = pushHead c (alternatives (n.next c) r) := by
  rw [alternatives.eq_def]
  split
  · rename_i heq
    obtain ⟨rfl, rfl⟩ := List.cons.inj heq
    rw [if_neg]
    rcases h with h | h | h
    · simp [h]
    · simp [isOrSeparator, h]
    · simp_all [isOrSeparator]
  · rename_i heq
    obtain ⟨rfl, rfl⟩ := List.cons.inj heq
    rfl
  · contradiction

theorem passesInside_alternatives : PassesInside alternatives pushHead where
  step n c r h := by
    rcases h with rfl | ⟨h, -⟩
    · exact alternatives_cons (.inr (.inl (by decide)))
    · exact alternatives_cons (.inl h)

theorem passesInside_commaPieces : PassesInside commaPieces pushHead where
  step n c r h := by
    rw [commaPieces, if_neg]
    rcases h with rfl | ⟨h, -⟩
    · simp
    · simp [h]

theorem withoutCast_doubled (v r : List Char) :
    withoutCast true (doubled v ++ r) = doubled v ++ withoutCast true r := by
  induction v with
  | nil => rfl
  | cons c v ih =>
    by_cases hc : c = '\''
    · subst hc
      simp [withoutCast, ih]
    · simp [doubled_cons hc, withoutCast, hc, ih]

theorem withoutCast_quoteLiteral (v r : List Char) :
    withoutCast false (quoteLiteral v ++ r) = quoteLiteral v ++ withoutCast false r := by
  simp [quoteLiteral_eq, withoutCast, withoutCast_doubled]

end ZodCatalog.Check
