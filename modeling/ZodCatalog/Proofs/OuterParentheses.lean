import ZodCatalog.Proofs.CountedParentheses
import ZodCatalog.Proofs.EqualityReadings

/-! The parentheses around a condition. They are taken off as long as the first of them is closed by
the last character, so that of a balanced condition only pairs go that belong together, and none
that goes around the whole is left. -/

namespace ZodCatalog.Check
open Text Nesting

section Trimming

variable {s t : List Char}

theorem settles_gap (h : IsGap t) (n : Nesting) : n.settles t = n.isTop := by
  induction t with
  | nil => rfl
  | cons c t ih =>
    rw [IsGap, List.forall_mem_cons] at h
    have hplain : c ∉ ['\'', '(', ')'] :=
      fun hmem => isPlain_of_isBlank h.1 (forall_mem_of_all (by decide) c hmem)
    have hclose : c ≠ ')' := fun heq => hplain (heq ▸ by simp)
    rw [settles, next_of_plain hplain, ih h.2]
    simp [hclose]

theorem settles_append_gap (h : IsGap t) (n : Nesting) : n.settles (s ++ t) = n.settles s := by
  induction s generalizing n with
  | nil => exact settles_gap h n
  | cons c s ih => rw [List.cons_append, settles, settles, ih]

theorem Balanced.trim (h : Balanced s) : Balanced (trim s) := by
  obtain ⟨lead, trail, hs, hlead, htrail⟩ := exists_trim s
  have hleft : Balanced lead := .of_isPlain fun c hc => isPlain_of_isBlank (hlead c hc)
  rw [balanced_iff_settles, hs, start, hleft.settles_append, settles_append_gap htrail] at h
  exact .of_settles h

end Trimming

/-- The first character is a parenthesis that the last one closes. -/
def IsEnclosed (s : List Char) : Prop := ∃ t, CountsOut t ∧ s = parenthesized t

theorem isWrapped_iff {s : List Char} (hs : Balanced s) : isWrapped s = true ↔ IsEnclosed s := by
  refine ⟨fun h => ?_, ?_⟩
  · simp only [isWrapped, Bool.and_eq_true, beq_iff_eq] at h
    cases hs with
    | nil => simp at h
    | plain hc _ => simp_all
    | literal v _ => simp [quoteLiteral_eq] at h
    | @group a b ha hb =>
      have hend := h.2
      rw [closesAtEnd_group ha, List.isEmpty_iff] at hend
      exact ⟨a, balanced_iff_countsOut.1 ha, by rw [hend, parenthesized]⟩
  · rintro ⟨t, ht, rfl⟩
    exact isWrapped_parenthesized (balanced_iff_countsOut.2 ht)

theorem balanced_stripOuterParens {s : List Char} (hs : Balanced s) :
    Grouped (stripOuterParens s) s ∧ Balanced (stripOuterParens s) ∧
      ¬ IsEnclosed (stripOuterParens s) := by
  fun_induction stripOuterParens s with
  | case1 s h ih =>
    obtain ⟨t, ht, rfl⟩ := (isWrapped_iff hs).1 h
    rw [parenthesized, inner_wrapped] at ih ⊢
    obtain ⟨hgroup, hrest⟩ := ih (balanced_iff_countsOut.2 ht).trim
    obtain ⟨lead, trail, htext, hlead, htrail⟩ := exists_trim t
    have hwrapped := Grouped.group hlead htrail hgroup
    rw [← htext] at hwrapped
    exact ⟨hwrapped, hrest⟩
  | case2 s h => exact ⟨.core, hs, mt (isWrapped_iff hs).2 h⟩

/-- Parentheses around a balanced condition are taken off with the blanks inside; what is left of it
is balanced, lies in matching pairs of parentheses, and is in no further one. -/
theorem stripOuterParens_outermost {e : List Char} (he : CountsOut e) :
    stripOuterParens (parenthesized e) = stripOuterParens (trim e) ∧
      Grouped (stripOuterParens e) e ∧ CountsOut (stripOuterParens e) ∧
        ¬ IsEnclosed (stripOuterParens e) := by
  have hbalanced := balanced_iff_countsOut.2 he
  obtain ⟨hgroup, hleft, hopen⟩ := balanced_stripOuterParens hbalanced
  exact ⟨stripOuterParens_parenthesized hbalanced, hgroup, balanced_iff_countsOut.1 hleft, hopen⟩

/-- Quoted parentheses are no pair. -/
theorem stripOuterParens_outermost_quoted :
    let e := "((kind = ')') or (kind = '(') )".toList
    let core := "(kind = ')') or (kind = '(')".toList
    CountsOut e ∧ stripOuterParens e = core ∧ stripOuterParens (parenthesized e) = core ∧
      Grouped core e ∧ CountsOut core ∧ ¬ IsEnclosed core := by
  intro e core
  have he : CountsOut e := balanced_iff_countsOut.1 (.of_settles (by decide))
  have hcore : stripOuterParens e = core := by decide +kernel
  have h := stripOuterParens_outermost he
  rw [hcore] at h
  exact ⟨he, hcore, h.1.trans hcore, h.2⟩

end ZodCatalog.Check
