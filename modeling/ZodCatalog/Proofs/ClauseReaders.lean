import Mathlib.Data.List.Basic
import ZodCatalog.Proofs.ArrayHeads

/-! The four readers of a condition on texts that start with a column name. Each of them goes by
what follows the name, and refuses the text when that is not its keyword. -/

namespace ZodCatalog.Check
open Text
open Pattern (isWord_of_asciiWord CharSet)

/-- Names that a clause writes as they are: word characters and dollar signs, none of them blank. -/
def IsName (s : List Char) : Prop := s ≠ [] ∧ ∀ c ∈ s, isColumnChar c = true ∧ isBlank c = false

theorem isName_of_ascii {s : List Char} (hne : s ≠ [])
    (h : (s.all fun c => c.isAlphanum || c == '_' || c == '$') = true) : IsName s := by
  refine ⟨hne, fun c hc => ?_⟩
  have hascii : c.isAlphanum = true ∨ c = '_' ∨ c = '$' := by
    simpa [or_assoc] using List.all_eq_true.1 h c hc
  rcases hascii with hc | rfl | rfl
  · have hranges : c.isAlphanum = (decide (c.val ≥ 65 ∧ c.val ≤ 90) ||
        decide (c.val ≥ 97) && decide (c.val ≤ 122) ||
        decide (c.val ≥ 48) && decide (c.val ≤ 57)) := rfl
    have hn : (65 ≤ c.toNat ∧ c.toNat ≤ 90) ∨ (97 ≤ c.toNat ∧ c.toNat ≤ 122) ∨
        (48 ≤ c.toNat ∧ c.toNat ≤ 57) := by
      simpa [hranges, UInt32.le_iff_toNat_le, or_assoc] using hc
    constructor
    · have hword : CharSet.asciiWord.has c = true := by
        simp [CharSet.asciiWord, CharSet.asciiAlnum, CharSet.asciiAlpha, CharSet.asciiDigit,
          CharSet.asciiUpper, CharSet.asciiLower, CharSet.has]
        omega
      simp [isColumnChar, isWord_of_asciiWord hword]
    · simp [isBlank]
      omega
  · exact ⟨by simp [isColumnChar, isWord_of_asciiWord (c := '_') (by decide)], by decide⟩
  · exact ⟨by simp [isColumnChar], by decide⟩

theorem isColumnChar_delimiter :
    ∀ c ∈ ['(', ')', '\'', '"', '=', '\\', '[', ']', ' '], isColumnChar c = false :=
  forall_mem_of_all (by decide +kernel)

theorem trimStart_space_cons {d : Char} (h : isBlank d = false) (r : List Char) :
    trimStart (' ' :: d :: r) = d :: r :=
  (trimStart_blank_cons (by decide) _).trans (trimStart_cons h r)

namespace IsName

variable {name : List Char}

theorem not_mem (h : IsName name) {c : Char}
    (hc : c ∈ ['(', ')', '\'', '"', '=', '\\', '[', ']', ' ']) : c ∉ name := by
  intro hmem
  simpa [isColumnChar_delimiter c hc] using (h.2 c hmem).1

/-- The first character of a name, which is none of the delimiters of a clause. -/
theorem exists_cons (h : IsName name) : ∃ c s, name = c :: s ∧ isBlank c = false ∧
    ∀ d ∈ ['(', ')', '\'', '"', '=', '\\', '[', ']', ' '], c ≠ d := by
  obtain ⟨c, s, rfl⟩ := List.exists_cons_of_ne_nil h.1
  exact ⟨c, s, rfl, (h.2 c List.mem_cons_self).2,
    fun d hd e => h.not_mem hd (e ▸ List.mem_cons_self)⟩

theorem subject? (h : IsName name) {d : Char} (hd : d ∉ [')', ':']) (hb : isBlank d = false)
    (r : List Char) : subject? (name ++ ' ' :: d :: r) = some ⟨name, ' ' :: d :: r⟩ := by
  have hcut : (name ++ ' ' :: d :: r).takeWhile isColumnChar = name ∧
      (name ++ ' ' :: d :: r).dropWhile isColumnChar = ' ' :: d :: r := by
    have hspace := isColumnChar_delimiter ' ' (by decide)
    constructor
    · rw [List.takeWhile_append_of_pos fun c hc => (h.2 c hc).1]
      simp [hspace]
    · rw [List.dropWhile_append_of_pos fun c hc => (h.2 c hc).1]
      simp [hspace]
  have hstart : trimStart ((name ++ ' ' :: d :: r).dropWhile (· == '(')) =
      name ++ ' ' :: d :: r ∧ afterChar? '"' (name ++ ' ' :: d :: r) = none := by
    obtain ⟨c, s, rfl, hc, hne⟩ := h.exists_cons
    rw [List.cons_append, List.dropWhile_cons_of_neg (by simpa using hne '(' (by simp)),
      trimStart_cons hc]
    exact ⟨rfl, by simp [afterChar?, hne '"' (by simp)]⟩
  have hname : columnName? (name ++ ' ' :: d :: r) = some (name, ' ' :: d :: r) := by
    simp only [columnName?, hstart.2, Option.getD_none, hcut, List.isEmpty_eq_false_iff.2 h.1]
    rfl
  have hunspaced := trimStart_space_cons hb r
  simp only [List.mem_cons, List.not_mem_nil, or_false, not_or] at hd
  have hcast : afterCast? (d :: r) = none := by
    unfold afterCast?
    split
    · simp_all
    · rfl
  simp [Check.subject?, hstart.1, hname, hunspaced, hcast, hd.1]

end IsName

theorem subject?_paren (s : List Char) : subject? ('(' :: s) = subject? s := rfl

def parenthesized (s : List Char) : List Char := '(' :: (s ++ [')'])

section Readers

variable {name column : List Char} {d : Char}

theorem membership?_eq_none (h : IsName name) (hd : d ∉ [')', ':']) (hb : isBlank d = false)
    (hi : d.toLower ≠ 'i') (r : List Char) :
    membership? column (name ++ ' ' :: d :: r) = none := by
  have hoperand : operandOfIn? (' ' :: d :: r) = none := by
    simp [operandOfIn?, afterCast?, trimStart_cons hb, afterKeyword?, hi,
      show isBlank ' ' = true by decide]
  simp [membership?, h.subject? hd hb, hoperand]

theorem equality?_eq_none (h : IsName name) (hd : d ∉ [')', ':', '=']) (hb : isBlank d = false)
    (r : List Char) : equality? column (name ++ ' ' :: d :: r) = none := by
  have htype : afterType? isTypeChar (' ' :: d :: r) = some (d :: r) :=
    congrArg some (trimStart_space_cons hb r)
  simp only [List.mem_cons, List.not_mem_nil, or_false, not_or] at hd
  simp [equality?, h.subject? (d := d) (by simp [hd]) hb, htype, afterChar?, hd]

theorem containment?_eq_none (h : IsName name) (hd : d ∉ [')', ':', '<'])
    (hb : isBlank d = false) (r : List Char) :
    containment? column (name ++ ' ' :: d :: r) = none := by
  have htype : afterType? isArrayTypeChar (' ' :: d :: r) = some (d :: r) :=
    congrArg some (trimStart_space_cons hb r)
  simp only [List.mem_cons, List.not_mem_nil, or_false, not_or] at hd
  simp [containment?, h.subject? (d := d) (by simp [hd]) hb, htype, afterChar?, hd]

theorem sameColumn_eq (h : IsName column) (written : List Char) :
    sameColumn written column = eqIgnoringAsciiCase written column := by
  have hbare (s : List Char) (hs : '"' ∉ s) : s.dropWhile (· == '"') = s := by
    cases s with
    | nil => rfl
    | cons c s =>
      have hc : c ≠ '"' := fun e => hs (e ▸ List.mem_cons_self)
      simp [hc]
  have hq : '"' ∉ column := h.not_mem (by simp)
  rw [sameColumn, hbare _ hq, hbare _ (by simpa using hq), List.reverse_reverse]

theorem sameColumn_self (h : IsName name) : sameColumn name name = true :=
  (sameColumn_eq h name).trans (eqIgnoringAsciiCase_refl name)

theorem closesAtEnd_group {s : List Char} (hs : Balanced s) (r : List Char) :
    closesAtEnd .start ('(' :: (s ++ ')' :: r)) = r.isEmpty := by
  have hopen : closesAtEnd .start ('(' :: (s ++ ')' :: r)) =
      closesAtEnd ⟨0 + 1, false⟩ (s ++ ')' :: r) := rfl
  rw [hopen, passesInside_closesAtEnd.balanced hs]
  simp [closesAtEnd, Nesting.next, Nesting.isTop]

/-- A list is a value set only where nothing follows its closing parenthesis. -/
theorem membership?_list (h : IsName name) {s : List Char} (hs : Balanced s) (r : List Char) :
    membership? name (name ++ " IN (".toList ++ s ++ ')' :: r) =
      if r.isEmpty then some (literalValues s) else none := by
  have htext : name ++ " IN (".toList ++ s ++ ')' :: r =
      name ++ ' ' :: 'I' :: ("N (".toList ++ s ++ ')' :: r) := by simp
  have hoperand : operandOfIn? (' ' :: 'I' :: ("N (".toList ++ s ++ ')' :: r)) =
      some ('(' :: (s ++ ')' :: r)) := by
    rw [List.append_assoc]
    rfl
  rw [htext, membership?, h.subject? (by decide) (by decide)]
  simp only [Option.bind_eq_bind, Option.bind_some, hoperand, sameColumn_self h,
    closesAtEnd_group hs, Bool.true_and]
  split
  · rename_i hr
    rw [List.isEmpty_iff.1 hr, inner_wrapped]
  · rfl

theorem equality?_literal (h : IsName name) (s : List Char) :
    equality? name (name ++ " = ".toList ++ s) = literalValue? s := by
  have htext : name ++ " = ".toList ++ s = name ++ ' ' :: '=' :: ' ' :: s := by simp
  rw [htext, equality?, h.subject? (by decide) (by decide), ← literalValue?_blank_cons (c := ' ')
    (by decide) s]
  simp only [Option.bind_eq_bind, Option.bind_some, sameColumn_self h]
  rfl

theorem containment?_array (h : IsName name) {s : List Char} (hs : ']' ∈ s) :
    containment? name (name ++ " <@ ARRAY[".toList ++ s) =
      some (literalValues (s.takeWhile (· != ']'))) := by
  have htext : name ++ " <@ ARRAY[".toList ++ s =
      name ++ ' ' :: '<' :: ("@ ARRAY[".toList ++ s) := by simp
  have hany : s.any (· == ']') = true := List.any_eq_true.2 ⟨_, hs, by decide⟩
  have hbody : arrayBody? ("ARRAY[".toList ++ s) = some (s.takeWhile (· != ']')) := by
    have hcut := cutFirst_map_fst (· == ']') s
    rw [if_pos hany] at hcut
    obtain ⟨cut, hcut, hfst⟩ := Option.map_eq_some_iff.1 hcut
    show (cutFirst (· == ']') s).bind _ = _
    rw [hcut]
    exact congrArg some hfst
  rw [htext, containment?, h.subject? (by decide) (by decide)]
  simp only [Option.bind_eq_bind, Option.bind_some, sameColumn_self h]
  show (arrayBody? ("ARRAY[".toList ++ s)).bind _ = _
  rw [hbody]
  rfl

end Readers

section Alternatives

variable {name column : List Char} {d : Char}

theorem alternatives_ne_nil (n : Nesting) (s : List Char) : alternatives n s ≠ [] := by
  have hpush (c : Char) (pieces : List (List Char)) : pushHead c pieces ≠ [] := by
    cases pieces <;> simp [pushHead]
  fun_cases alternatives n s <;> simp [hpush]

theorem alternatives_plain {s : List Char} (h : ∀ c ∈ s, c ∉ ['\'', '(', ')', ' '])
    (r : List Char) :
    alternatives .start (s ++ r) = pushText s (alternatives .start r) := by
  induction s with
  | nil => rfl
  | cons c s ih =>
    have hc := h c List.mem_cons_self
    simp only [List.mem_cons, List.not_mem_nil, or_false, not_or] at hc
    have hnext : Nesting.next .start c = .start := Nesting.next_plain (by simp [hc]) 0
    rw [List.cons_append, alternatives_cons (.inr (.inl hc.2.2.2)), hnext,
      ih fun d hd => h d (.tail _ hd)]
    rfl

theorem equalities?_eq_none {s piece : List Char} {pieces : List (List Char)}
    (hs : alternatives .start s = piece :: pieces)
    (h : equality? column (stripOuterParens (trim piece)) = none) :
    equalities? column s = none := by
  rw [equalities?, hs]
  split
  · rfl
  · rw [List.mapM_cons, h]
    rfl

theorem stripOuterParens_of_head {c : Char} (h : c ≠ '(') (r : List Char) :
    stripOuterParens (c :: r) = c :: r := by
  rw [stripOuterParens, dif_neg]
  simp [isWrapped, h]

theorem IsName.stripOuterParens (h : IsName name) (r : List Char) :
    stripOuterParens (name ++ r) = name ++ r := by
  obtain ⟨c, s, rfl, -, hne⟩ := h.exists_cons
  exact stripOuterParens_of_head (hne '(' (by simp)) _

theorem IsName.trim (h : IsName name) (hd : isBlank d = false) (s r : List Char) :
    trim (name ++ (s ++ d :: r)) = name ++ (s ++ d :: trimEnd r) := by
  obtain ⟨c, m, rfl, hc, -⟩ := h.exists_cons
  rw [List.cons_append, trim_cons hc, ← List.append_assoc, trimEnd_append hd, List.append_assoc]
  rfl

/-- A chain of equalities does not start with a name that something else than an equals sign
follows. -/
theorem equalities?_name_eq_none (h : IsName name) (hd : d ∉ [')', ':', '='])
    (hb : isBlank d = false) (ho : d.toLower ≠ 'o') (r : List Char) :
    equalities? column (name ++ ' ' :: d :: r) = none := by
  have hspace : d ≠ ' ' := by
    rintro rfl
    contradiction
  have hplain : ∀ c ∈ name, c ∉ ['\'', '(', ')', ' '] := fun c hc hmem =>
    h.not_mem (forall_mem_of_all (by decide) c hmem) hc
  obtain ⟨piece, pieces, hpieces⟩ := List.exists_cons_of_ne_nil
    (alternatives_ne_nil (Nesting.next .start d) r)
  have hfirst : alternatives .start (name ++ ' ' :: d :: r) =
      (name ++ ' ' :: d :: piece) :: pieces := by
    have hnext : Nesting.next .start ' ' = .start := rfl
    have hor : (d :: r).head?.map Char.toLower ≠ some 'o' := by simpa using ho
    rw [alternatives_plain hplain, alternatives_cons (.inr (.inr hor)), hnext,
      alternatives_cons (.inr (.inl hspace)), hpieces, pushHead, pushHead, pushText_cons_piece]
  refine equalities?_eq_none hfirst ?_
  rw [show name ++ ' ' :: d :: piece = name ++ ([' '] ++ d :: piece) from rfl, h.trim hb,
    h.stripOuterParens]
  exact equality?_eq_none h hd hb _

theorem alternatives_parenthesized {s : List Char} (hs : Balanced s) (r : List Char) :
    alternatives .start (parenthesized s ++ r) =
      pushText (parenthesized s) (alternatives .start r) := by
  have hclose : alternatives ⟨0 + 1, false⟩ (')' :: r) = pushHead ')' (alternatives .start r) :=
    alternatives_cons (.inl rfl)
  rw [parenthesized, List.cons_append, alternatives_cons (.inr (.inl (by decide))),
    Nesting.start, Nesting.next_open, List.append_assoc, passesInside_alternatives.balanced hs,
    List.singleton_append, hclose, Nesting.start, pushText, List.foldr_cons, List.foldr_append]
  rfl

theorem alternatives_or (r : List Char) :
    alternatives .start (" OR ".toList ++ '(' :: r) = [] :: alternatives .start ('(' :: r) := by
  show alternatives .start (' ' :: 'O' :: 'R' :: ' ' :: '(' :: r) = _
  rw [alternatives, if_pos (by decide)]

end Alternatives

end ZodCatalog.Check
