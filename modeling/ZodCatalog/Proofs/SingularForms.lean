import Mathlib.Data.List.Induction
import ZodCatalog.Naming.Inflection

/-! Singulars of singulars. The singular of a name is singular itself, unless its last segment is a
plural twice over: an irregular plural with another ending, or a word in `ses` of which the ending
`es` is taken off and an `s` is left that can be taken off again. -/

namespace ZodCatalog

namespace Text

theorem lowerChar_cases (c : Char) : (∃ d, lowerChar c = [d]) ∨ lowerChar c = ['i', '\u0307'] := by
  unfold lowerChar
  split_ifs
  · exact .inl ⟨_, rfl⟩
  · exact .inr rfl
  · exact .inl ⟨_, rfl⟩

theorem lower_eq_concat {w p : List Char} {x : Char} (hx : x ≠ '\u0307')
    (h : lower w = p ++ [x]) : ∃ v c, w = v ++ [c] ∧ lower v = p ∧ lower [c] = [x] := by
  rcases List.eq_nil_or_concat w with rfl | ⟨v, c, rfl⟩
  · simp at h
  rw [List.concat_eq_append] at h ⊢
  rw [lower_append, lower_cons, lower_nil, List.append_nil] at h
  rcases lowerChar_cases c with ⟨d, hd⟩ | hdotted
  · rw [hd] at h
    obtain ⟨hv, hlast⟩ := List.append_inj' h rfl
    exact ⟨v, c, rfl, hv, by simpa [hd] using hlast⟩
  · have hlast := congrArg List.getLast? h
    simp [hdotted] at hlast
    exact absurd hlast.symm hx

/-- The ending of a lower form comes from an ending of the word that is as long. -/
theorem lower_eq_append {w p e : List Char} (he : '\u0307' ∉ e) (h : lower w = p ++ e) :
    ∃ v u, w = v ++ u ∧ lower v = p ∧ lower u = e ∧ u.length = e.length := by
  induction e using List.reverseRecOn generalizing w with
  | nil => exact ⟨w, [], by simp, by simpa using h, rfl, rfl⟩
  | append_singleton e x ih =>
    simp only [List.mem_append, List.mem_singleton, not_or] at he
    rw [← List.append_assoc] at h
    obtain ⟨w, c, rfl, hw, hc⟩ := lower_eq_concat (Ne.symm he.2) h
    obtain ⟨v, u, rfl, hv, hu, hlength⟩ := ih he.1 hw
    refine ⟨v, u ++ [c], by simp, hv, ?_, by simp [hlength]⟩
    rw [lower_append, hu, hc]

end Text

namespace Inflection

open Text

/-- Words that are never taken for plurals, by their lower form. -/
def isKept (low : List Char) : Bool :=
  isOneOf uncountable low || isOneOf pluralLookalikes low || endsWithOneOf ["ss", "us", "is"] low

/-- Lower forms of plurals that have no rule. -/
def IsIrregular (low : List Char) : Prop := ∃ e ∈ irregular, e.2.toList = low

instance (low : List Char) : Decidable (IsIrregular low) :=
  inferInstanceAs (Decidable (∃ e ∈ irregular, e.2.toList = low))

/-- What a word ends in when its plural is formed with another vowel. -/
def sibilants : List String := ["x", "ch", "sh", "s", "z", "o"]

section Endings

variable {low : List Char}

theorem endsWithOneOf_iff {endings : List String} :
    endsWithOneOf endings low = true ↔ ∃ e ∈ endings, e.toList <:+ low := by
  simp [endsWithOneOf]

theorem isOneOf_iff {nouns : List String} :
    isOneOf nouns low = true ↔ ∃ noun ∈ nouns, noun.toList = low := by
  simp [isOneOf]

theorem endsWithOneOf_singleton_iff {ending : String} :
    endsWithOneOf [ending] low = true ↔ ∃ p, low = p ++ ending.toList := by
  rw [endsWithOneOf_iff]
  simp [List.IsSuffix, eq_comm]

theorem endsWithOneOf_sibilantPlurals_iff : endsWithOneOf sibilantPlurals low = true ↔
    ∃ p, low = p ++ "es".toList ∧ endsWithOneOf sibilants p = true := by
  have hplural : ∀ e ∈ sibilantPlurals, ∃ s ∈ sibilants, e.toList = s.toList ++ "es".toList := by
    decide
  have hsingular : ∀ s ∈ sibilants, ∃ e ∈ sibilantPlurals, e.toList = s.toList ++ "es".toList := by
    decide
  simp only [endsWithOneOf_iff]
  constructor
  · rintro ⟨e, he, q, rfl⟩
    obtain ⟨s, hs, hes⟩ := hplural e he
    exact ⟨q ++ s.toList, by rw [hes, List.append_assoc], s, hs, List.suffix_append ..⟩
  · rintro ⟨_, rfl, s, hs, q, rfl⟩
    obtain ⟨e, he, hes⟩ := hsingular s hs
    exact ⟨e, he, q, by rw [hes, List.append_assoc]⟩

/-- A word loses an ending as its lower form does. -/
theorem lower_dropEnd {w p e : List Char} {n : Nat} (he : '\u0307' ∉ e) (hn : e.length = n)
    (h : lower w = p ++ e) : lower (dropEnd n w) = p := by
  obtain ⟨v, u, rfl, hv, -, hlength⟩ := lower_eq_append he h
  have hdrop : dropEnd n (v ++ u) = v := by simp [dropEnd, hlength, hn]
  rw [hdrop, hv]

end Endings

/-- How the singular of a word is found. -/
inductive SingularOf (w : List Char) : List Char → Prop
  | kept (h : isKept (lower w) = true) : SingularOf w w
  | irregular {e : String × String} (he : e ∈ irregular) (h : e.2.toList = lower w) :
      SingularOf w (withCaseOf w e.1)
  | consonant {v : List Char} (hv : v <+: w) (hkept : isKept (lower w) = false)
      (h : lower w = lower v ++ "ies".toList) : SingularOf w (v ++ ['y'])
  | sibilant {v : List Char} (hv : v <+: w) (hkept : isKept (lower w) = false)
      (hregular : ¬IsIrregular (lower w)) (h : lower w = lower v ++ "es".toList)
      (hend : endsWithOneOf sibilants (lower v) = true) : SingularOf w v
  | plain {v : List Char} (hv : v <+: w) (hkept : isKept (lower w) = false)
      (h : lower w = lower v ++ ['s']) (hne : lower v ≠ [])
      (hend : endsWithOneOf sibilantPlurals (lower w) = false) : SingularOf w v
  | singular (hregular : ¬IsIrregular (lower w)) (h : lower w = ['s'] ∨ ¬['s'] <:+ lower w) :
      SingularOf w w

theorem singularOf_singularWord (w : List Char) : SingularOf w (singularWord w) := by
  unfold singularWord
  dsimp only
  split
  · rename_i hkept
    exact .kept hkept
  rename_i hnot
  have hkept : isKept (lower w) = false := Bool.eq_false_iff.2 hnot
  split
  · rename_i singular plural hfind
    have hplural := List.find?_some hfind
    exact .irregular (List.mem_of_find?_eq_some hfind) (beq_iff_eq.1 hplural)
  rename_i hfind
  have hregular : ¬IsIrregular (lower w) := by
    rintro ⟨e, he, heq⟩
    exact List.find?_eq_none.1 hfind e he (beq_iff_eq.2 heq)
  split
  · rename_i hies
    obtain ⟨p, hp⟩ := endsWithOneOf_singleton_iff.1 (Bool.and_eq_true_iff.1 hies).2
    have hlow := lower_dropEnd (by decide) (by decide : "ies".toList.length = 3) hp
    exact .consonant (List.take_prefix ..) hkept (hlow ▸ hp)
  split
  · rename_i hes
    obtain ⟨p, hp, hend⟩ := endsWithOneOf_sibilantPlurals_iff.1 hes
    have hlow := lower_dropEnd (by decide) (by decide : "es".toList.length = 2) hp
    exact .sibilant (List.take_prefix ..) hkept hregular (hlow ▸ hp) (hlow ▸ hend)
  rename_i hes
  split
  · rename_i hs
    obtain ⟨p, hp⟩ := endsWithOneOf_singleton_iff.1 (Bool.and_eq_true_iff.1 hs).2
    have hlow := lower_dropEnd (by decide) (by decide : "s".toList.length = 1) hp
    refine .plain (List.take_prefix ..) hkept (hlow ▸ hp) ?_ (Bool.eq_false_iff.2 hes)
    rw [hlow]
    rintro rfl
    simp [hp] at hs
  · rename_i hs
    refine .singular hregular (or_iff_not_imp_right.2 fun hsuffix => ?_)
    rw [not_not] at hsuffix
    obtain ⟨p, hp⟩ := hsuffix
    have hend : endsWithOneOf ["s"] (lower w) = true := endsWithOneOf_singleton_iff.2 ⟨p, hp.symm⟩
    rw [hend, Bool.and_true, decide_eq_true_eq, ← hp, List.length_append] at hs
    have hnil : p = [] := List.length_eq_zero_iff.1 (by simpa using hs)
    rw [← hp, hnil]
    rfl

/-- Lower forms of words that are their own singulars. -/
def IsSingular (low : List Char) : Prop :=
  isKept low = true ∨ ¬IsIrregular low ∧ (low = ['s'] ∨ ¬['s'] <:+ low)

instance (low : List Char) : Decidable (IsSingular low) :=
  inferInstanceAs (Decidable (_ ∨ _ ∧ (_ ∨ _)))

theorem withCaseOf_cases (w : List Char) (r : String) :
    withCaseOf w r = capitalizeFirst r.toList ∨ withCaseOf w r = r.toList := by
  unfold withCaseOf
  split
  · split_ifs
    · exact .inl rfl
    · exact .inr rfl
  · exact .inr rfl

theorem lower_withCaseOf {e : String × String} (he : e ∈ irregular) (w : List Char) :
    lower (withCaseOf w e.1) = e.1.toList := by
  have hforms : ∀ e ∈ irregular, lower e.1.toList = e.1.toList ∧
      lower (capitalizeFirst e.1.toList) = e.1.toList := by decide +kernel
  rcases withCaseOf_cases w e.1 with hcase | hcase
  · rw [hcase, (hforms e he).2]
  · rw [hcase, (hforms e he).1]

theorem irregular_forms : ∀ e ∈ irregular, e.1.toList ≠ e.2.toList ∧ IsSingular e.1.toList ∧
    isKept e.2.toList = false := by
  decide +kernel

theorem not_isSingular_append {low p : List Char} (hkept : isKept low = false)
    (h : low = p ++ ['s']) (hne : p ≠ []) : ¬IsSingular low := by
  rintro (hlow | ⟨-, hlow | hlow⟩)
  · exact Bool.false_ne_true (hkept.symm.trans hlow)
  · rw [h] at hlow
    exact hne (List.append_left_eq_self.1 hlow)
  · exact hlow ⟨p, h.symm⟩

/-- A word that is no singular loses an ending, and one that is keeps its form. -/
theorem singularWord_eq_self_iff {w : List Char} :
    singularWord w = w ↔ IsSingular (lower w) := by
  have h := singularOf_singularWord w
  have hlonger {v : List Char} {q : List Char} (hq : q ≠ []) (hlow : lower w = lower v ++ q) :
      v ≠ w := by
    rintro rfl
    exact hq (List.self_eq_append_right.1 hlow)
  generalize singularWord w = r at h
  cases h with
  | kept hkept => exact iff_of_true rfl (.inl hkept)
  | @irregular e he hlow =>
    obtain ⟨hne, -, hkept⟩ := irregular_forms e he
    refine iff_of_false (fun heq => ?_) ?_
    · rw [← heq, lower_withCaseOf he] at hlow
      exact hne hlow.symm
    · rintro (h | ⟨h, -⟩)
      · rw [← hlow, hkept] at h
        contradiction
      · exact h ⟨e, he, hlow⟩
  | @consonant v _ hkept hlow =>
    have hend : lower w = (lower v ++ "ie".toList) ++ ['s'] := by simp [hlow]
    refine iff_of_false (fun heq => ?_) (not_isSingular_append hkept hend (by simp))
    rw [← heq, lower_append, List.append_right_inj] at hlow
    exact absurd hlow (by decide)
  | sibilant _ hkept _ hlow =>
    have hs : lower w = (lower r ++ ['e']) ++ ['s'] := by simp [hlow]
    exact iff_of_false (hlonger (by decide) hlow) (not_isSingular_append hkept hs (by simp))
  | plain _ hkept hlow hne =>
    exact iff_of_false (hlonger (by decide) hlow) (not_isSingular_append hkept hlow hne)
  | singular hregular hlow => exact iff_of_true rfl (.inr ⟨hregular, hlow⟩)

/-- Lower forms of words whose singular has a singular of its own. -/
inductive IsTwicePlural : List Char → Prop
  /-- An irregular plural with the ending of the others. -/
  | irregular {p : List Char} (h : IsIrregular p) (hs : endsWithOneOf ["s", "se"] p = false) :
      IsTwicePlural (p ++ ['s'])
  /-- A word in `ses` of which one `s` is left that is taken for an ending. -/
  | sibilant {p : List Char} (hne : p ≠ []) (hregular : ¬IsIrregular (p ++ "ses".toList))
      (hkept : isKept (p ++ ['s']) = false) : IsTwicePlural (p ++ "ses".toList)

section TwicePlurals

variable {low p q : List Char}

theorem IsIrregular.elim {P : List Char → Prop} (h : IsIrregular p)
    (hall : ∀ e ∈ irregular, P e.2.toList) : P p := by
  obtain ⟨e, he, rfl⟩ := h
  exact hall e he

theorem isKept_append_ses (p : List Char) : isKept (p ++ "ses".toList) = false := by
  have hnouns : ∀ noun ∈ uncountable ++ pluralLookalikes, ¬"ses".toList <:+ noun.toList := by
    decide
  have hendings : ∀ e ∈ ["ss", "us", "is"], e.toList.length ≤ "ses".toList.length ∧
      ¬e.toList <:+ "ses".toList := by
    decide
  refine Bool.eq_false_iff.2 fun h => ?_
  rw [isKept, Bool.or_eq_true, Bool.or_eq_true, isOneOf_iff, isOneOf_iff, endsWithOneOf_iff] at h
  rcases h with (⟨noun, hnoun, heq⟩ | ⟨noun, hnoun, heq⟩) | ⟨e, he, hsuffix⟩
  · exact hnouns noun (List.mem_append_left _ hnoun) ⟨p, heq.symm⟩
  · exact hnouns noun (List.mem_append_right _ hnoun) ⟨p, heq.symm⟩
  · obtain ⟨hlength, hnot⟩ := hendings e he
    exact hnot (List.suffix_of_suffix_length_le hsuffix (List.suffix_append ..) hlength)

theorem IsTwicePlural.isKept_eq_false (h : IsTwicePlural low) : isKept low = false := by
  cases h with
  | irregular h hs =>
    exact h.elim (P := fun p => endsWithOneOf ["s", "se"] p = false → isKept (p ++ ['s']) = false)
      (by decide +kernel) hs
  | sibilant => exact isKept_append_ses _

/-- One ending alone is not taken off twice, unless the rest is irregular. -/
theorem isTwicePlural_append_iff
    (hends : endsWithOneOf sibilantPlurals (p ++ ['s']) = false) (hs : ¬['s'] <:+ p) :
    IsTwicePlural (p ++ ['s']) ↔ IsIrregular p := by
  have hses : ¬"ses".toList <:+ p ++ ['s'] := fun h =>
    Bool.false_ne_true (hends.symm.trans (endsWithOneOf_iff.2 ⟨"ses", by decide, h⟩))
  constructor
  · intro h
    generalize hq : p ++ ['s'] = low at h
    cases h with
    | irregular h => exact (List.append_inj_left' hq rfl) ▸ h
    | sibilant => exact absurd ⟨_, hq.symm⟩ hses
  · intro h
    refine .irregular h (Bool.eq_false_iff.2 fun hend => ?_)
    obtain ⟨e, he, v, rfl⟩ := endsWithOneOf_iff.1 hend
    simp only [List.mem_cons, List.not_mem_nil, or_false] at he
    rcases he with rfl | rfl
    · exact hs (List.suffix_append ..)
    · exact hses ⟨v, by simp⟩

theorem isTwicePlural_ses_iff (hregular : ¬IsIrregular (p ++ "ses".toList)) :
    IsTwicePlural (p ++ "ses".toList) ↔ p ≠ [] ∧ isKept (p ++ ['s']) = false := by
  constructor
  · intro h
    generalize hq : p ++ "ses".toList = low at h
    cases h with
    | @irregular v h hs =>
      have hv : p ++ "se".toList = v := List.append_inj_left' (by simpa using hq) rfl
      rw [← hv, Bool.eq_false_iff] at hs
      exact absurd (endsWithOneOf_iff.2 ⟨"se", by decide, List.suffix_append ..⟩) hs
    | sibilant hne _ hkept =>
      obtain rfl := List.append_inj_left' hq rfl
      exact ⟨hne, hkept⟩
  · rintro ⟨hne, hkept⟩
    exact .sibilant hne hregular hkept

theorem IsTwicePlural.not_isSingular (h : IsTwicePlural low) : ¬IsSingular low := by
  have hkept := h.isKept_eq_false
  cases h with
  | @irregular p h =>
    have hne : p ≠ [] := h.elim (P := (· ≠ [])) (by decide)
    exact not_isSingular_append hkept rfl hne
  | @sibilant p =>
    have hs : p ++ "ses".toList = (p ++ "se".toList) ++ ['s'] := by simp
    exact not_isSingular_append hkept hs (by simp)

/-- Without a vowel before its `s` an ending leaves a singular, irregular plurals apart. -/
theorem isSingular_iff_of_plain (hkept : isKept (p ++ ['s']) = false)
    (hends : endsWithOneOf sibilantPlurals (p ++ ['s']) = false) :
    IsSingular p ↔ ¬IsTwicePlural (p ++ ['s']) := by
  have hs : ¬['s'] <:+ p := by
    rintro ⟨v, rfl⟩
    have hss : endsWithOneOf ["ss", "us", "is"] (v ++ ['s'] ++ ['s']) = true :=
      endsWithOneOf_iff.2 ⟨"ss", by decide, v, by simp⟩
    rw [isKept, hss, Bool.or_true] at hkept
    contradiction
  rw [isTwicePlural_append_iff hends hs]
  constructor
  · rintro (h | ⟨h, -⟩)
    · rintro ⟨e, he, rfl⟩
      rw [(irregular_forms e he).2.2] at h
      contradiction
    · exact h
  · exact fun h => .inr ⟨h, .inr hs⟩

theorem isSingular_iff_of_sibilant (hend : endsWithOneOf sibilants p = true)
    (hregular : ¬IsIrregular (p ++ "es".toList)) :
    IsSingular p ↔ ¬IsTwicePlural (p ++ "es".toList) := by
  by_cases hs : ['s'] <:+ p
  · obtain ⟨v, rfl⟩ := hs
    have hses : v ++ ['s'] ++ "es".toList = v ++ "ses".toList := by simp
    rw [hses] at hregular ⊢
    rw [isTwicePlural_ses_iff hregular, not_and, Bool.not_eq_false]
    constructor
    · intro h hne
      by_contra hkept
      exact not_isSingular_append (Bool.eq_false_iff.2 hkept) rfl hne h
    · intro h
      rcases eq_or_ne v [] with rfl | hne
      · decide
      · exact .inl (h hne)
  -- Irregular plurals with such an ending, or with one before an `e`, have an `s` there.
  · have hforms : ∀ e ∈ irregular,
        (endsWithOneOf sibilants e.2.toList = true → ['s'] <:+ e.2.toList) ∧
        (endsWithOneOf sibilants (dropEnd 1 e.2.toList) = true → ['e'] <:+ e.2.toList →
          ['s'] <:+ dropEnd 1 e.2.toList) := by
      decide +kernel
    refine iff_of_true (.inr ⟨?_, .inr hs⟩) fun h => ?_
    · rintro ⟨e, he, rfl⟩
      exact hs ((hforms e he).1 hend)
    generalize hq : p ++ "es".toList = low at h
    cases h with
    | irregular h =>
      obtain ⟨e, he, rfl⟩ := h
      have hlow : p ++ ['e'] = e.2.toList := List.append_inj_left' (by simpa using hq) rfl
      have hdrop : dropEnd 1 e.2.toList = p := by simp [← hlow, dropEnd]
      have hcut := (hforms e he).2
      rw [hdrop] at hcut
      exact hs (hcut hend ⟨p, hlow⟩)
    | @sibilant v =>
      have hv : p = v ++ ['s'] := List.append_inj_left' (by simpa using hq) rfl
      exact hs ⟨v, hv.symm⟩

theorem isSingular_concat {c : Char} (hc : ∀ e ∈ irregular, ¬[c] <:+ e.2.toList) (hs : 's' ≠ c) :
    IsSingular (p ++ [c]) := by
  refine .inr ⟨?_, .inr fun h => ?_⟩
  · rintro ⟨e, he, heq⟩
    exact hc e he ⟨p, heq.symm⟩
  · have hlast := List.suffix_of_suffix_length_le h (List.suffix_append ..) (Nat.le_refl _)
    exact hs (List.cons.inj (hlast.eq_of_length rfl)).1

theorem not_isTwicePlural_append_ies : ¬IsTwicePlural (p ++ "ies".toList) := by
  have hforms : ∀ e ∈ irregular, ¬"ie".toList <:+ e.2.toList := by decide
  intro h
  generalize hq : p ++ "ies".toList = low at h
  cases h with
  | irregular h =>
    obtain ⟨e, he, rfl⟩ := h
    have hlow : p ++ "ie".toList = e.2.toList := List.append_inj_left' (by simpa using hq) rfl
    exact hforms e he ⟨p, hlow⟩
  | sibilant => exact absurd (List.append_inj_right' hq rfl) (by decide)

end TwicePlurals

/-- The singular of a word is a singular, unless the word is a plural twice over. -/
theorem isSingular_singularWord_iff (w : List Char) :
    IsSingular (lower (singularWord w)) ↔ ¬IsTwicePlural (lower w) := by
  have h := singularOf_singularWord w
  generalize singularWord w = r at h
  cases h with
  | kept hkept => exact iff_of_true (.inl hkept) fun h => h.not_isSingular (.inl hkept)
  | @irregular e he hlow =>
    obtain ⟨-, hsingular, -⟩ := irregular_forms e he
    have hforms : ∀ e ∈ irregular, ∀ f ∈ irregular, f.2.toList ++ ['s'] ≠ e.2.toList := by decide
    rw [lower_withCaseOf he]
    refine iff_of_true hsingular fun h => ?_
    generalize lower w = low at h hlow
    cases h with
    | irregular h =>
      obtain ⟨f, hf, rfl⟩ := h
      exact hforms e he f hf hlow.symm
    | sibilant _ hregular => exact hregular ⟨e, he, hlow⟩
  | consonant _ _ hlow =>
    rw [hlow, lower_append]
    exact iff_of_true (isSingular_concat (by decide) (by decide)) not_isTwicePlural_append_ies
  | sibilant _ _ hregular hlow hend =>
    rw [hlow] at hregular ⊢
    exact isSingular_iff_of_sibilant hend hregular
  | plain _ hkept hlow _ hend =>
    rw [hlow] at hkept hend ⊢
    exact isSingular_iff_of_plain hkept hend
  | singular hregular hlow =>
    have hsingular : IsSingular (lower w) := .inr ⟨hregular, hlow⟩
    exact iff_of_true hsingular fun h => h.not_isSingular hsingular

/-- The part of a name of which the number is read. -/
def lastSegment (s : List Char) : List Char :=
  match cutLast (· == '_') s with
  | some (_, last) => if last.isEmpty then s else last
  | none => s

section Segments

variable {s t : List Char} (f : List Char → List Char)

theorem segments_of_not_mem (h : '_' ∉ s) : onLastSegment f s = f s ∧ lastSegment s = s := by
  have hcut : cutLast (· == '_') s = none := by
    rw [cutLast, cutFirst_of_none fun c hc => beq_eq_false_of_not_mem h c (List.mem_reverse.1 hc)]
    rfl
  simp [onLastSegment, lastSegment, hcut]

theorem segments_append (h : '_' ∉ t) (hne : t ≠ []) :
    onLastSegment f (s ++ '_' :: t) = s ++ '_' :: f t ∧ lastSegment (s ++ '_' :: t) = t := by
  simp [onLastSegment, lastSegment, cutLast_append (beq_eq_false_of_not_mem h) (beq_self_eq_true _),
    hne]

theorem segments_concat : onLastSegment f (s ++ ['_']) = f (s ++ ['_']) ∧
    lastSegment (s ++ ['_']) = s ++ ['_'] := by
  have hcut : cutLast (· == '_') (s ++ ['_']) = some (s, []) := cutLast_append (by simp) rfl s
  simp [onLastSegment, lastSegment, hcut]

theorem exists_segments (h : '_' ∈ s) : ∃ a b, s = a ++ '_' :: b ∧ '_' ∉ b := by
  obtain ⟨b, a, hreverse, hb⟩ := List.eq_append_cons_of_mem (List.mem_reverse.2 h)
  refine ⟨a.reverse, b.reverse, ?_, by simpa using hb⟩
  simpa using congrArg List.reverse hreverse

theorem onLastSegment_cases (s : List Char) : onLastSegment f s = f s ∨
    ∃ a b, s = a ++ '_' :: b ∧ onLastSegment f s = a ++ '_' :: f b := by
  by_cases h : '_' ∈ s
  swap
  · exact .inl (segments_of_not_mem f h).1
  obtain ⟨a, b, rfl, hb⟩ := exists_segments h
  rcases eq_or_ne b [] with rfl | hne
  · exact .inl (segments_concat f).1
  · exact .inr ⟨a, b, rfl, (segments_append f hb hne).1⟩

end Segments

/-- The singular of a segment is a segment. -/
theorem singularWord_segment {w : List Char} (h : '_' ∉ w) (hne : w ≠ []) :
    '_' ∉ singularWord w ∧ singularWord w ≠ [] := by
  have hw := singularOf_singularWord w
  generalize singularWord w = r at hw
  cases hw with
  | kept => exact ⟨h, hne⟩
  | @irregular e he =>
    have hforms : ∀ e ∈ irregular, e.1.toList ≠ [] ∧ '_' ∉ e.1.toList ∧
        '_' ∉ capitalizeFirst e.1.toList := by
      decide +kernel
    obtain ⟨hform, hlow, hcapital⟩ := hforms e he
    constructor
    · rcases withCaseOf_cases w e.1 with hcase | hcase
      · rwa [hcase]
      · rwa [hcase]
    · intro hnil
      have hlower := lower_withCaseOf he w
      rw [hnil] at hlower
      exact hform hlower.symm
  | consonant hv => exact ⟨by simpa using fun hmem => h (hv.subset hmem), by simp⟩
  | sibilant hv _ _ _ hend =>
    refine ⟨fun hmem => h (hv.subset hmem), ?_⟩
    rintro rfl
    exact absurd hend (by decide)
  | plain hv _ _ hlow =>
    refine ⟨fun hmem => h (hv.subset hmem), ?_⟩
    rintro rfl
    exact hlow lower_nil
  | singular => exact ⟨h, hne⟩

theorem singularWord_idem_iff (w : List Char) :
    singularWord (singularWord w) = singularWord w ↔ ¬IsTwicePlural (lower w) :=
  singularWord_eq_self_iff.trans (isSingular_singularWord_iff w)

theorem singularChars_idem_iff (s : List Char) : singularChars (singularChars s) = singularChars s ↔
    ¬IsTwicePlural (lower (lastSegment s)) := by
  unfold singularChars
  by_cases h : '_' ∈ s
  swap
  · obtain ⟨hsingular, hlast⟩ := segments_of_not_mem singularWord h
    rw [hsingular, hlast, ← singularWord_idem_iff]
    rcases eq_or_ne s [] with rfl | hne
    · decide
    · rw [(segments_of_not_mem singularWord (singularWord_segment h hne).1).1]
  obtain ⟨a, b, rfl, hb⟩ := exists_segments h
  rcases eq_or_ne b [] with rfl | hne
  -- Nothing follows the last low line, and a text that ends in one has no number.
  · obtain ⟨hsingular, hlast⟩ := segments_concat (s := a) singularWord
    have hend : IsSingular (lower (a ++ ['_'])) := by
      rw [lower_append]
      exact isSingular_concat (by decide) (by decide)
    have hself := singularWord_eq_self_iff.2 hend
    rw [hsingular, hself, hsingular, hself, hlast]
    exact iff_of_true rfl fun htwice => htwice.not_isSingular hend
  · obtain ⟨hnot, hnonempty⟩ := singularWord_segment hb hne
    obtain ⟨hsingular, hlast⟩ := segments_append (s := a) singularWord hb hne
    rw [hsingular, (segments_append singularWord hnot hnonempty).1, hlast, ← singularWord_idem_iff]
    simp

/-- A singular is found in one step, from every name but the plurals of plurals. -/
theorem singularize_idem_iff (name : String) :
    singularize (singularize name) = singularize name ↔
      ¬IsTwicePlural (lower (lastSegment name.toList)) := by
  rw [← singularChars_idem_iff]
  simp [singularize, String.ofList_inj]

theorem singularize_cases_twice :
    ¬∀ name, singularize (singularize name) = singularize name := by
  intro h
  exact absurd (h "cases") (by decide +kernel)

end Inflection

end ZodCatalog
