import Mathlib.Data.List.Basic
import ZodCatalog.Proofs.QuotedText

/-! Parentheses outside of quotes, counted. A quote is open behind an odd number of single quotes,
and what stands outside of them decides on the depth; a text is balanced if no part of it from the
start closes more parentheses than it opens, and the whole as many. -/

namespace ZodCatalog.Check

/-- The characters outside of single quotes, which are left out themselves. -/
def unquoted (quoted : Bool) : List Char → List Char
  | [] => []
  | c :: r =>
    if c = '\'' then unquoted (!quoted) r
    else if quoted then unquoted quoted r
    else c :: unquoted quoted r

/-- How many parentheses are open behind a text, where closing none changes nothing. -/
def depthFrom (depth : Nat) : List Char → Nat
  | [] => depth
  | c :: r =>
    depthFrom (if c = '(' then depth + 1 else if c = ')' then depth - 1 else depth) r

/-- Whether a quote is open behind a text. -/
def quotedFrom (quoted : Bool) (s : List Char) : Bool := quoted ^^ s.count '\'' % 2 == 1

section Counting

variable {c : Char} (s : List Char)

theorem unquoted_nil (q : Bool) : unquoted q [] = [] := rfl

theorem unquoted_quote (q : Bool) : unquoted q ('\'' :: s) = unquoted (!q) s := by simp [unquoted]

theorem unquoted_quoted (h : c ≠ '\'') : unquoted true (c :: s) = unquoted true s := by
  simp [unquoted, h]

theorem unquoted_outside (h : c ≠ '\'') : unquoted false (c :: s) = c :: unquoted false s := by
  simp [unquoted, h]

theorem quotedFrom_quote (q : Bool) : quotedFrom q ('\'' :: s) = quotedFrom (!q) s := by
  rw [quotedFrom, quotedFrom, List.count_cons_self]
  rcases Nat.mod_two_eq_zero_or_one (s.count '\'') with h | h <;> cases q <;>
    simp [Nat.add_mod, h]

theorem quotedFrom_cons (h : c ≠ '\'') (q : Bool) : quotedFrom q (c :: s) = quotedFrom q s := by
  rw [quotedFrom, quotedFrom, List.count_cons_of_ne h]

end Counting

namespace Nesting

/-- The nesting behind a text. -/
def after (n : Nesting) (s : List Char) : Nesting := s.foldl next n

theorem after_append (n : Nesting) (s t : List Char) : n.after (s ++ t) = (n.after s).after t :=
  List.foldl_append

theorem next_of_plain {c : Char} (h : c ∉ ['\'', '(', ')']) (n : Nesting) : n.next c = n := by
  simp only [List.mem_cons, List.not_mem_nil, or_false, not_or] at h
  simp [next, h]

theorem after_of_plain {s : List Char} (h : ∀ c ∈ s, c ∉ ['\'', '(', ')']) (n : Nesting) :
    n.after s = n := by
  induction s with
  | nil => rfl
  | cons c s ih =>
    rw [List.forall_mem_cons] at h
    rw [after, List.foldl_cons, next_of_plain h.1]
    exact ih h.2

/-- The scan of a text counts as it is counted outside of quotes. -/
theorem after_eq (d : Nat) (q : Bool) (s : List Char) :
    after ⟨d, q⟩ s = ⟨depthFrom d (unquoted q s), quotedFrom q s⟩ := by
  induction s generalizing d q with
  | nil => simp [after, unquoted, depthFrom, quotedFrom]
  | cons c s ih =>
    have hstep : after ⟨d, q⟩ (c :: s) = after (next ⟨d, q⟩ c) s := rfl
    rw [hstep]
    by_cases hquote : c = '\''
    · subst hquote
      rw [next_quote, ih, unquoted_quote, quotedFrom_quote]
    rw [quotedFrom_cons s hquote]
    cases q with
    | true => rw [next_quoted hquote, ih, unquoted_quoted s hquote]
    | false =>
      have hnext : next ⟨d, false⟩ c =
          ⟨if c = '(' then d + 1 else if c = ')' then d - 1 else d, false⟩ := by
        simp only [next, if_neg hquote, Bool.false_eq_true, if_false]
        split <;> [rfl; split <;> rfl]
      rw [hnext, ih, unquoted_outside s hquote, depthFrom]

theorem isTop_after (n : Nesting) (s : List Char) : (n.after s).isTop = true ↔
    depthFrom n.depth (unquoted n.quoted s) = 0 ∧ quotedFrom n.quoted s = false := by
  rw [after_eq n.depth n.quoted]
  simp [isTop]

end Nesting

/-- Outside of quotes no more parentheses are closed than are open, all are closed in the end, and
so are the quotes. -/
structure CountsOut (s : List Char) : Prop where
  closes_le : ∀ p, p <+: s → (unquoted false p).count ')' ≤ (unquoted false p).count '('
  closes_eq : (unquoted false s).count ')' = (unquoted false s).count '('
  unquoted_end : quotedFrom false s = false

theorem forall_prefix_cons {P : List Char → Prop} {c : Char} {s : List Char} :
    (∀ p, p <+: c :: s → P p) ↔ P [] ∧ ∀ p, p <+: s → P (c :: p) := by
  refine ⟨fun h => ⟨h [] List.nil_prefix, fun p hp => h _ ((List.prefix_cons_inj c).2 hp)⟩, ?_⟩
  rintro ⟨hnil, hcons⟩ p hp
  rcases List.prefix_cons_iff.1 hp with rfl | ⟨t, rfl, ht⟩
  · exact hnil
  · exact hcons t ht

open Nesting

/-- The same counts behind an open quote or parentheses that are left to be closed. -/
theorem settles_iff (d : Nat) (q : Bool) (s : List Char) : settles ⟨d, q⟩ s = true ↔
    (∀ p, p <+: s → (unquoted q p).count ')' ≤ d + (unquoted q p).count '(') ∧
      (unquoted q s).count ')' = d + (unquoted q s).count '(' ∧ quotedFrom q s = false := by
  induction s generalizing d q with
  | nil =>
    have htop : settles ⟨d, q⟩ [] = true ↔ d = 0 ∧ q = false := by simp [settles, isTop]
    rw [htop, eq_comm]
    simp [unquoted_nil, quotedFrom]
  | cons c s ih =>
    by_cases hquote : c = '\''
    · subst hquote
      rw [settles_quote, ih, forall_prefix_cons, quotedFrom_quote]
      simp only [unquoted_quote, unquoted_nil, List.count_nil, Nat.zero_le, true_and]
    rw [forall_prefix_cons, quotedFrom_cons s hquote]
    cases q with
    | true =>
      rw [settles_quoted hquote, ih]
      simp only [unquoted_quoted _ hquote, unquoted_nil, List.count_nil, Nat.zero_le, true_and]
    | false =>
      simp only [unquoted_outside _ hquote, unquoted_nil, List.count_nil, Nat.zero_le, true_and]
      by_cases hopen : c = '('
      · subst hopen
        have hcloses (r : List Char) : ('(' :: r).count ')' = r.count ')' :=
          List.count_cons_of_ne (by decide)
        have hopens (r : List Char) : d + ('(' :: r).count '(' = d + 1 + r.count '(' := by
          rw [List.count_cons_self, Nat.add_right_comm, Nat.add_assoc]
        rw [settles_open, ih]
        simp only [hcloses, hopens]
      by_cases hclose : c = ')'
      · subst hclose
        have hopens (r : List Char) : (')' :: r).count '(' = r.count '(' :=
          List.count_cons_of_ne (by decide)
        simp only [hopens, List.count_cons_self]
        rw [settles_close]
        cases d with
        | zero =>
          -- The parenthesis alone closes one more than is open.
          refine iff_of_false (by simp) fun h => ?_
          exact absurd (h.1 [] List.nil_prefix) (by simp [unquoted_nil])
        | succ d =>
          have hmove (n : Nat) : d + 1 + n = d + n + 1 := Nat.add_right_comm d 1 n
          simp only [hmove, Nat.add_le_add_iff_right, Nat.add_right_cancel_iff]
          rw [Nat.add_sub_cancel, ← ih]
          simp
      · rw [settles_plain (by simp [hquote, hopen, hclose]), ih]
        simp [hopen, hclose]

theorem balanced_iff_countsOut {s : List Char} : Balanced s ↔ CountsOut s := by
  rw [balanced_iff_settles, start, settles_iff]
  simp only [Nat.zero_add]
  exact ⟨fun ⟨hle, heq, hend⟩ => ⟨hle, heq, hend⟩,
    fun h => ⟨h.closes_le, h.closes_eq, h.unquoted_end⟩⟩

end ZodCatalog.Check
