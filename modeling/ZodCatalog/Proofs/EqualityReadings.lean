import Mathlib.Data.List.DropRight
import Mathlib.Data.List.Forall2
import ZodCatalog.Proofs.Alternations
import ZodCatalog.Proofs.ValueRecovery

/-! Which conditions joined by `or` are read as equalities. The right side of one is all that
follows the sign, so a condition that goes on behind its literal is read as well, and the rest of it
is part of the value. -/

namespace ZodCatalog.Check
open Text

section Blanks

variable {s gap : List Char}

theorem trim_append_gap (h : IsGap gap) (s : List Char) : trim (s ++ gap) = trim s := by
  have hend (t : List Char) : trimEnd (t ++ gap) = trimEnd t := by
    rw [trimEnd, trimEnd, List.reverse_append, List.dropWhile_append_of_pos]
    simpa [IsGap] using h
  rw [trim, trim, trimStart, trimStart, List.dropWhile_append]
  split
  · rename_i hblank
    rw [List.isEmpty_iff.1 hblank, List.dropWhile_eq_nil_iff.2 h]
  · exact hend _

theorem trim_gap_append (h : IsGap gap) (s : List Char) : trim (gap ++ s) = trim s := by
  rw [trim, trimStart, List.dropWhile_append_of_pos h]
  rfl

theorem trim_eq_self_iff : trim s = s ↔
    (∀ c ∈ s.head?, isBlank c = false) ∧ ∀ c ∈ s.getLast?, isBlank c = false := by
  have hstart : trimStart s = s ↔ ∀ c ∈ s.head?, isBlank c = false := by
    cases s <;> simp [trimStart]
  have hend : trimEnd s = s ↔ ∀ c ∈ s.getLast?, isBlank c = false := by
    have hlast : trimEnd s = s ↔ ∀ h : s ≠ [], ¬ isBlank (s.getLast h) = true :=
      List.rdropWhile_eq_self_iff
    rw [hlast]
    cases s <;> simp [List.getLast?_eq_some_getLast]
  rw [← hstart, ← hend, trim]
  refine ⟨fun h => ?_, fun h => by rw [h.1, h.2]⟩
  -- Neither end can lose a character, since the text keeps its length.
  have hlength : (trimStart s).length = s.length := by
    have hle := length_trimEnd_le (trimStart s)
    rw [h] at hle
    exact Nat.le_antisymm (length_trimStart_le s) hle
  have hfirst : trimStart s = s := (List.dropWhile_suffix isBlank).eq_of_length hlength
  rw [hfirst] at h
  exact ⟨hfirst, h⟩

theorem exists_cons_of_trim (h : trim s = s) (hne : s ≠ []) :
    ∃ c r, s = c :: r ∧ isBlank c = false := by
  obtain ⟨c, r, rfl⟩ := List.exists_cons_of_ne_nil hne
  exact ⟨c, r, rfl, (trim_eq_self_iff.1 h).1 c rfl⟩

theorem trim_append_concat {d : Char} (h : trim s = s) (hne : s ≠ []) (hd : isBlank d = false)
    (m : List Char) : trim (s ++ (m ++ [d])) = s ++ (m ++ [d]) := by
  obtain ⟨c, r, rfl, hc⟩ := exists_cons_of_trim h hne
  rw [List.cons_append, ← List.append_assoc, trim_eq_self hc hd]

theorem trim_of_not_blank (h : ∀ c ∈ s, isBlank c = false) : trim s = s :=
  trim_eq_self_iff.2
    ⟨fun c hc => h c (List.mem_of_mem_head? hc), fun c hc => h c (List.mem_of_getLast? hc)⟩

theorem append_trimEnd (s : List Char) : ∃ gap, s = trimEnd s ++ gap ∧ IsGap gap := by
  have hcut := List.takeWhile_append_dropWhile (p := isBlank) (l := s.reverse)
  refine ⟨(s.reverse.takeWhile isBlank).reverse, ?_, fun c hc => ?_⟩
  · rw [trimEnd, ← List.reverse_append, hcut, List.reverse_reverse]
  · exact List.mem_takeWhile_imp (List.mem_reverse.1 hc)

theorem exists_trim (s : List Char) :
    ∃ lead trail, s = lead ++ (trim s ++ trail) ∧ IsGap lead ∧ IsGap trail := by
  obtain ⟨trail, htrail, hblank⟩ := append_trimEnd (trimStart s)
  obtain ⟨lead, hlead, hgap⟩ := append_trimStart s
  exact ⟨lead, trail, by rw [trim, ← htrail, ← hlead], hgap, hblank⟩

end Blanks

section Grammar

/-- A text in parentheses that belong together, any number of them, with blanks inside. -/
inductive Grouped (core : List Char) : List Char → Prop
  | core : Grouped core core
  | group {lead s trail : List Char} (hlead : IsGap lead) (htrail : IsGap trail) :
      Grouped core s → Grouped core (parenthesized (lead ++ (s ++ trail)))

/-- Texts without the first character of a comparison. -/
def IsUnsigned (s : List Char) : Prop := ∀ c ∈ s, c ∉ ['=', '<']

instance (s : List Char) : Decidable (IsUnsigned s) :=
  List.decidableBAll (· ∉ ['=', '<']) s

/-- The words of a condition that stand without quotes: types behind a cast, and literals. -/
structure Lexicon where
  IsType : List Char → Prop
  IsBare : List Char → Prop
  last_of_isType : ∀ {type}, IsType type → ∃ s c, type = s ++ [c] ∧ isBlank c = false
  unsigned_of_isType : ∀ {type}, IsType type → IsUnsigned type
  ne_nil_of_isBare : ∀ {word}, IsBare word → word ≠ []
  plain_of_isBare : ∀ {word}, IsBare word →
    ∀ c ∈ word, c ∉ ['\'', '"', '(', ')', ':'] ∧ isBlank c = false

namespace Lexicon

variable (L : Lexicon)

/-- The literals of a value: the quoted one, and a word that stands for itself. -/
inductive IsLiteral : List Char → List Char → Prop
  | quoted (v : List Char) : IsLiteral (quoteLiteral v) v
  | bare {word : List Char} : L.IsBare word → IsLiteral word word

/-- A text with one cast or none. Where the text is in parentheses and the type ends in another
pair of them, these ends do not belong together, and that cast is left out. -/
inductive MayCast (core : List Char) : List Char → Prop
  | plain : MayCast core core
  | cast {s gap type : List Char} (hs : Grouped core s) (hgap : IsGap gap) (htype : L.IsType type)
      (hends : hasParenEnds (s ++ (gap ++ ':' :: ':' :: type)) = false) :
      MayCast core (s ++ (gap ++ ':' :: ':' :: type))

/-- A side of a comparison: one name or one literal, with a cast and parentheses as they come. -/
def IsOperand (core text : List Char) : Prop :=
  ∃ lead s t trail, text = lead ++ (t ++ trail) ∧ IsGap lead ∧ IsGap trail ∧
    L.MayCast core s ∧ Grouped s t

/-- The name of a column as a condition writes it, in double quotes or without. -/
def IsReference (column text : List Char) : Prop :=
  ∃ name, name ≠ [] ∧ (∀ c ∈ name, isColumnChar c = true) ∧ sameColumn name column = true ∧
    (text = name ∨ text = '"' :: (name ++ ['"']))

/-- A condition that is one equality of the column with one literal. -/
def IsEquality (column d v : List Char) : Prop :=
  v ≠ [] ∧ ∃ left right reference literal,
    stripOuterParens (trim d) = left ++ '=' :: right ∧
    IsReference column reference ∧ L.IsOperand reference left ∧
    L.IsLiteral literal v ∧ L.IsOperand literal right

end Lexicon

/-- Letters, digits and underscores. -/
def isAsciiWordChar (c : Char) : Bool := c.isAlphanum || c == '_'

theorem asciiWord_plain {word : List Char} (h : word.all isAsciiWordChar = true) :
    ∀ c ∈ word, c ∉ ['\'', '"', '(', ')', ':', '=', '<'] ∧ isBlank c = false := by
  intro c hc
  have hchar := List.all_eq_true.1 h c hc
  refine ⟨not_mem_of_class (p := isAsciiWordChar) (by decide) hchar, ?_⟩
  have hword : c.isAlphanum = true ∨ c = '_' := by simpa [isAsciiWordChar] using hchar
  have hname : IsName [c] := isName_of_ascii (List.cons_ne_nil c []) (by simp [hword])
  exact (hname.2 c List.mem_cons_self).2

/-- ASCII words as the names of types and as literals. -/
def asciiWords : Lexicon where
  IsType word := word ≠ [] ∧ word.all isAsciiWordChar = true
  IsBare word := word ≠ [] ∧ word.all isAsciiWordChar = true
  last_of_isType := by
    rintro word ⟨hne, hword⟩
    obtain hnil | ⟨s, c, rfl⟩ := List.eq_nil_or_concat word
    · exact absurd hnil hne
    · exact ⟨s, c, List.concat_eq_append, (asciiWord_plain hword c (by simp)).2⟩
  unsigned_of_isType := by
    rintro word ⟨-, hword⟩ c hc hmem
    exact (asciiWord_plain hword c hc).1 (forall_mem_of_all (by decide) c hmem)
  ne_nil_of_isBare h := h.1
  plain_of_isBare := by
    rintro word ⟨-, hword⟩ c hc
    obtain ⟨hplain, hblank⟩ := asciiWord_plain hword c hc
    exact ⟨fun hmem => hplain (forall_mem_of_all (by decide) c hmem), hblank⟩

end Grammar

section Literals

variable {L : Lexicon} {core s t v : List Char}

/-- Texts that the search for a cast passes over. -/
def PassesCast (s : List Char) : Prop := ∀ r, withoutCast false (s ++ r) = s ++ withoutCast false r

theorem PassesCast.append (hs : PassesCast s) (ht : PassesCast t) : PassesCast (s ++ t) := by
  intro r
  rw [List.append_assoc, hs, ht, List.append_assoc]

theorem passesCast_of_plain (h : ∀ c ∈ s, c ∉ ['\'', ':']) : PassesCast s := by
  intro r
  induction s with
  | nil => rfl
  | cons c s ih =>
    rw [List.forall_mem_cons] at h
    have hc : c ≠ '\'' ∧ c ≠ ':' := by simpa using h.1
    rw [List.cons_append, withoutCast, if_neg hc.1, if_neg (by simp [hc.2]), ih h.2]
    rfl

theorem IsGap.passesCast (h : IsGap s) : PassesCast s := by
  refine passesCast_of_plain fun c hc hmem => ?_
  have hnone : ∀ d ∈ ['\'', ':'], isBlank d = false := forall_mem_of_all (by decide)
  simpa [hnone c hmem] using h c hc

namespace Grouped

theorem trim_eq (h : Grouped core s) (hcore : trim core = core) : trim s = s := by
  cases h with
  | core => exact hcore
  | group _ _ _ => exact trim_eq_self (by decide) (by decide) _

theorem ne_nil (h : Grouped core s) (hcore : core ≠ []) : s ≠ [] := by
  cases h with
  | core => exact hcore
  | group _ _ _ => exact List.cons_ne_nil _ _

theorem passesCast (h : Grouped core s) (hcore : PassesCast core) : PassesCast s := by
  induction h with
  | core => exact hcore
  | @group lead s trail hlead htrail _ ih =>
    have hopen : PassesCast ['('] := passesCast_of_plain (forall_mem_of_all (by decide))
    have hclose : PassesCast [')'] := passesCast_of_plain (forall_mem_of_all (by decide))
    exact hopen.append ((hlead.passesCast.append (ih.append htrail.passesCast)).append hclose)

theorem stripParenEnds_eq (h : Grouped core s) (hcore : trim core = core) :
    stripParenEnds s = stripParenEnds core := by
  induction h with
  | core => rfl
  | @group lead s trail hlead htrail hs ih =>
    have hends : hasParenEnds (parenthesized (lead ++ (s ++ trail))) = true := by
      simp [hasParenEnds, parenthesized, List.getLast?_cons, List.getLast?_append]
      omega
    rw [stripParenEnds, dif_pos hends, parenthesized, inner_wrapped, trim_gap_append hlead,
      trim_append_gap htrail, hs.trim_eq hcore, ih]

theorem sublist (h : Grouped core s) : core.Sublist s := by
  induction h with
  | core => exact .refl _
  | @group lead s trail _ _ _ ih =>
    have hinner : s.Sublist (lead ++ (s ++ trail)) :=
      (List.sublist_append_left s trail).trans (List.sublist_append_right lead _)
    exact ih.trans (hinner.trans ((List.sublist_append_left _ [')']).cons '('))

end Grouped

namespace Lexicon.IsLiteral

variable {literal : List Char} (h : L.IsLiteral literal v)

include h

theorem trim_eq : trim literal = literal := by
  cases h with
  | quoted => exact trim_eq_self (by decide) (by decide) _
  | bare hword => exact trim_of_not_blank fun c hc => (L.plain_of_isBare hword c hc).2

theorem exists_cons : ∃ c r, literal = c :: r ∧ c ≠ '(' := by
  cases h with
  | quoted => exact ⟨_, _, rfl, by decide⟩
  | bare hword =>
    obtain ⟨c, r, rfl⟩ := List.exists_cons_of_ne_nil (L.ne_nil_of_isBare hword)
    refine ⟨c, r, rfl, ?_⟩
    rintro rfl
    exact (L.plain_of_isBare hword _ List.mem_cons_self).1 (by simp)

theorem ne_nil : literal ≠ [] := by
  obtain ⟨c, r, rfl, -⟩ := h.exists_cons
  exact List.cons_ne_nil c r

theorem stripParenEnds_eq : stripParenEnds literal = literal := by
  obtain ⟨c, r, rfl, hc⟩ := h.exists_cons
  exact stripParenEnds_of_head hc r

theorem passesCast : PassesCast literal := by
  cases h with
  | quoted v => exact withoutCast_quoteLiteral v
  | bare hword =>
    exact passesCast_of_plain fun c hc hmem =>
      (L.plain_of_isBare hword c hc).1 (forall_mem_of_all (by decide) c hmem)

theorem unquote_eq : unquote literal = v := by
  cases h with
  | quoted v => exact unquote_quoteLiteral v
  | bare hword =>
    have hquote {quote : Char} (hmem : quote ∈ ['\'', '"', '(', ')', ':']) :
        isEnclosedBy quote v = false := by
      obtain ⟨c, r, rfl⟩ := List.exists_cons_of_ne_nil (L.ne_nil_of_isBare hword)
      have hc : c ≠ quote := by
        rintro rfl
        exact (L.plain_of_isBare hword _ List.mem_cons_self).1 hmem
      simp [isEnclosedBy, hc]
    rw [unquote, hquote (by simp), hquote (by simp)]
    rfl

end Lexicon.IsLiteral

theorem hasParenEnds_stripped (h : hasParenEnds s = false) : stripParenEnds s = s := by
  rw [stripParenEnds, dif_neg (by simp [h])]

theorem Lexicon.IsOperand.sublist {text : List Char} (h : L.IsOperand core text) :
    core.Sublist text := by
  obtain ⟨lead, s, t, trail, rfl, -, -, hs, ht⟩ := h
  have hcore : core.Sublist s := by
    cases hs with
    | plain => exact .refl _
    | cast hg _ _ _ => exact hg.sublist.trans (List.sublist_append_left ..)
  exact hcore.trans (ht.sublist.trans ((List.sublist_append_left t trail).trans
    (List.sublist_append_right lead _)))

/-- A literal is read back from the side of a comparison. -/
theorem Lexicon.IsOperand.literalValue? {literal right : List Char} (hv : v ≠ [])
    (hliteral : L.IsLiteral literal v) (h : L.IsOperand literal right) :
    literalValue? right = some v := by
  obtain ⟨lead, s, t, trail, rfl, hlead, htrail, hs, ht⟩ := h
  have hread (hs' : trim s = s) : trim (lead ++ (t ++ trail)) = t := by
    rw [trim_gap_append hlead, trim_append_gap htrail, ht.trim_eq hs']
  have hvalue : stripParenEnds (trim (withoutCast false (stripParenEnds
      (trim (lead ++ (t ++ trail)))))) = literal := by
    cases hs with
    | plain =>
      have hpass := hliteral.passesCast []
      rw [List.append_nil] at hpass
      rw [hread hliteral.trim_eq, ht.stripParenEnds_eq hliteral.trim_eq,
        hliteral.stripParenEnds_eq, hpass]
      show stripParenEnds (trim (literal ++ [])) = literal
      rw [List.append_nil, hliteral.trim_eq, hliteral.stripParenEnds_eq]
    | @cast g gap type hg hgap htype hends =>
      obtain ⟨m, d, rfl, hd⟩ := L.last_of_isType htype
      have hgtrim := hg.trim_eq hliteral.trim_eq
      have htrim : trim (g ++ (gap ++ ':' :: ':' :: (m ++ [d]))) =
          g ++ (gap ++ ':' :: ':' :: (m ++ [d])) := by
        have hne := hg.ne_nil hliteral.ne_nil
        simpa using trim_append_concat hgtrim hne hd (gap ++ ':' :: ':' :: m)
      have hcut : withoutCast false (g ++ (gap ++ ':' :: ':' :: (m ++ [d]))) = g ++ gap := by
        have hcast : withoutCast false (':' :: ':' :: (m ++ [d])) = [] := rfl
        rw [hg.passesCast hliteral.passesCast, hgap.passesCast, hcast, List.append_nil]
      rw [hread htrim, ht.stripParenEnds_eq htrim, hasParenEnds_stripped hends, hcut,
        trim_append_gap hgap, hgtrim, hg.stripParenEnds_eq hliteral.trim_eq,
        hliteral.stripParenEnds_eq]
  rw [Check.literalValue?, hvalue, hliteral.unquote_eq]
  simp [hv]

end Literals

section Signs

variable {L : Lexicon} {column s t d v core text : List Char}

/-- A text from the first character of a comparison on. -/
def fromSign (s : List Char) : List Char := s.dropWhile fun c => !(c == '=' || c == '<')

theorem fromSign_append (h : IsUnsigned s) (t : List Char) : fromSign (s ++ t) = fromSign t := by
  refine List.dropWhile_append_of_pos fun c hc => ?_
  simpa using h c hc

theorem fromSign_append_of_cons {c : Char} {r : List Char} (h : fromSign s = c :: r)
    (t : List Char) : fromSign (s ++ t) = c :: (r ++ t) := by
  rw [fromSign, List.dropWhile_append, ← fromSign, h]
  rfl

theorem IsUnsigned.append (hs : IsUnsigned s) (ht : IsUnsigned t) : IsUnsigned (s ++ t) :=
  List.forall_mem_append.2 ⟨hs, ht⟩

theorem isUnsigned_of_isPlain (h : ∀ c ∈ s, IsPlain c) : IsUnsigned s :=
  fun c hc hmem => h c hc (forall_mem_of_all (by decide) c hmem)

theorem IsGap.isUnsigned (h : IsGap s) : IsUnsigned s :=
  isUnsigned_of_isPlain fun c hc => isPlain_of_isBlank (h c hc)

theorem Grouped.isUnsigned (h : Grouped core s) (hcore : IsUnsigned core) : IsUnsigned s := by
  induction h with
  | core => exact hcore
  | @group lead s trail hlead htrail _ ih =>
    have hopen : IsUnsigned ['('] := by decide
    have hclose : IsUnsigned [')'] := by decide
    exact hopen.append ((hlead.isUnsigned.append (ih.append htrail.isUnsigned)).append hclose)

theorem Lexicon.IsOperand.isUnsigned (h : L.IsOperand core text) (hcore : IsUnsigned core) :
    IsUnsigned text := by
  obtain ⟨lead, s, t, trail, rfl, hlead, htrail, hs, ht⟩ := h
  have hsides : IsUnsigned s := by
    cases hs with
    | plain => exact hcore
    | cast hg hgap htype =>
      have hcolons : IsUnsigned [':', ':'] := by decide
      exact (hg.isUnsigned hcore).append
        (hgap.isUnsigned.append (hcolons.append (L.unsigned_of_isType htype)))
  exact hlead.isUnsigned.append ((ht.isUnsigned hsides).append htrail.isUnsigned)

theorem isUnsigned_replicate {c : Char} (hc : c ∉ ['=', '<']) (n : Nat) :
    IsUnsigned (List.replicate n c) := by
  intro d hd
  rw [List.eq_of_mem_replicate hd]
  exact hc

theorem LeftSide.isUnsigned_text (l : LeftSide) : IsUnsigned l.text :=
  (isUnsigned_replicate (by decide) _).append
    ((isUnsigned_of_isPlain l.isPlain_inside).append (isUnsigned_replicate (by decide) _))

theorem IsTail.isUnsigned {p : Char → Bool} (hp : ∀ {c}, p c = true → IsPlain c)
    (h : IsTail p s) : IsUnsigned s := by
  cases h with
  | gap hgap => exact hgap.isUnsigned
  | cast _ htype =>
    have hcolons : IsUnsigned [':', ':'] := by decide
    exact hcolons.append (isUnsigned_of_isPlain fun c hc => hp (htype c hc))

/-- A condition that is read as an equality: a left side with the name of the column, the sign, and
all that follows, which has the value. -/
def ReadsAs (column d v : List Char) : Prop :=
  ∃ (l : LeftSide) (tail right : List Char),
    stripOuterParens (trim d) = l.text ++ (tail ++ '=' :: right) ∧ IsTail isTypeChar tail ∧
      sameColumn l.name column = true ∧ literalValue? right = some v

theorem ReadsAs.fromSign (h : ReadsAs column d v) :
    ∃ right, fromSign (stripOuterParens (trim d)) = '=' :: right ∧
      Check.literalValue? right = some v := by
  obtain ⟨l, tail, right, htext, htail, -, hvalue⟩ := h
  refine ⟨right, ?_, hvalue⟩
  rw [htext, fromSign_append l.isUnsigned_text,
    fromSign_append (htail.isUnsigned isPlain_of_isTypeChar)]
  rfl

theorem containment?_fromSign {values : List (List Char)}
    (h : containment? column s = some values) : ∃ r, fromSign s = '<' :: r := by
  simp only [containment?, Option.bind_eq_bind, Option.bind_eq_some_iff] at h
  obtain ⟨subject, hsubject, rest, hrest, r, hr, -⟩ := h
  obtain ⟨l, -, rfl⟩ := subject?_eq_some hsubject
  obtain ⟨tail, htail, hrest⟩ := afterType?_eq_some hrest
  refine ⟨r, ?_⟩
  rw [hrest, fromSign_append l.isUnsigned_text,
    fromSign_append (htail.isUnsigned isPlain_of_isArrayTypeChar), afterChar?_eq_some.1 hr]
  rfl

theorem isUnsigned_reference (h : Lexicon.IsReference column text) : IsUnsigned text := by
  obtain ⟨name, -, hchars, -, rfl | rfl⟩ := h
  · exact isUnsigned_of_isPlain fun c hc => isPlain_of_isColumnChar (hchars c hc)
  · have hquote : IsUnsigned ['"'] := by decide
    have hname : IsUnsigned name :=
      isUnsigned_of_isPlain fun c hc => isPlain_of_isColumnChar (hchars c hc)
    exact hquote.append (hname.append hquote)

/-- The literal of an equality stands behind its first sign. -/
theorem Lexicon.IsEquality.fromSign (h : L.IsEquality column d v) :
    ∃ right literal, fromSign (stripOuterParens (trim d)) = '=' :: right ∧
      L.IsLiteral literal v ∧ L.IsOperand literal right := by
  obtain ⟨-, left, right, reference, literal, htext, href, hleft, hliteral, hright⟩ := h
  refine ⟨right, literal, ?_, hliteral, hright⟩
  rw [htext, fromSign_append (hleft.isUnsigned (isUnsigned_reference href))]
  rfl

theorem Lexicon.IsEquality.eq_of_readsAs {w : List Char} (h : L.IsEquality column d v)
    (hread : ReadsAs column d w) : w = v := by
  obtain ⟨right, literal, hright, hliteral, hoperand⟩ := h.fromSign
  obtain ⟨right', hright', hvalue⟩ := hread.fromSign
  obtain rfl : right' = right := (List.cons.inj (hright'.symm.trans hright)).2
  exact Option.some.inj (hvalue.symm.trans (hoperand.literalValue? h.1 hliteral))

/-- A value that holds a quote has a quoted literal, for which what follows the sign has to be long
enough. -/
theorem Lexicon.IsEquality.length_le {right : List Char}
    (h : L.IsEquality column d v) (hquote : '\'' ∈ v)
    (hsign : Check.fromSign (stripOuterParens (trim d)) = '=' :: right) :
    (quoteLiteral v).length ≤ right.length := by
  obtain ⟨right', literal, hsign', hliteral, hright⟩ := h.fromSign
  obtain rfl : right = right' := (List.cons.inj (hsign.symm.trans hsign')).2
  cases hliteral with
  | quoted => exact hright.sublist.length_le
  | bare hword => exact absurd (by simp) (L.plain_of_isBare hword _ hquote).1

/-- A text that the other one holds with no sign in front of it. -/
def IsFirstIn (s t : List Char) : Prop :=
  ∃ front back, t = front ++ (s ++ back) ∧ IsUnsigned front

theorem IsFirstIn.of_trim (h : IsFirstIn s (trim t)) : IsFirstIn s t := by
  obtain ⟨front, back, hfront, hunsigned⟩ := h
  obtain ⟨lead, trail, htrim, hlead, -⟩ := exists_trim t
  refine ⟨lead ++ front, back ++ trail, ?_, hlead.isUnsigned.append hunsigned⟩
  rw [htrim, hfront]
  simp

theorem IsFirstIn.cons_open (h : IsFirstIn s t) (r : List Char) :
    IsFirstIn s ('(' :: (t ++ r)) := by
  obtain ⟨front, back, rfl, hunsigned⟩ := h
  have hopen : IsUnsigned ['('] := by decide
  exact ⟨'(' :: front, back ++ r, by simp, hopen.append hunsigned⟩

theorem IsFirstIn.fromSign {c : Char} {r : List Char} (h : IsFirstIn s t)
    (hs : fromSign s = c :: r) : ∃ r', fromSign t = c :: r' := by
  obtain ⟨front, back, rfl, hunsigned⟩ := h
  rw [fromSign_append hunsigned, fromSign_append_of_cons hs]
  exact ⟨_, rfl⟩

theorem eq_of_isWrapped (h : isWrapped s = true) : s = '(' :: (inner s ++ [')']) := by
  simp only [isWrapped, Bool.and_eq_true, beq_iff_eq] at h
  obtain ⟨⟨hhead, hlast⟩, hcloses⟩ := h
  obtain ⟨t, rfl⟩ := List.getLast?_eq_some_iff.1 hlast
  cases t with
  | nil => contradiction
  | cons c t =>
    obtain rfl := Option.some.inj hhead
    rw [List.cons_append, inner_wrapped]

/-- Parentheses and blanks are all that is taken off in front of a condition. -/
theorem isFirstIn_stripOuterParens (s : List Char) : IsFirstIn (stripOuterParens s) s := by
  fun_induction stripOuterParens s with
  | case1 s h ih =>
    have hopen := ih.of_trim.cons_open [')']
    rwa [← eq_of_isWrapped h] at hopen
  | case2 s h => exact ⟨[], [], by simp, by decide⟩

/-- The first sign of an alternation is that of its first condition. -/
theorem fromSign_alternation {c : Char} {r : List Char} (ds : List (List Char))
    (h : fromSign (stripOuterParens (trim d)) = c :: r) :
    ∃ r', fromSign (alternation (d :: ds)) = c :: r' := by
  obtain ⟨rest, hrest⟩ : ∃ rest, alternation (d :: ds) = '(' :: (d ++ rest) := by
    cases ds with
    | nil => exact ⟨[')'], rfl⟩
    | cons e ds =>
      refine ⟨')' :: (" OR ".toList ++ alternation (e :: ds)), ?_⟩
      rw [alternation_cons_cons, parenthesized]
      simp
  rw [hrest]
  exact ((isFirstIn_stripOuterParens (trim d)).of_trim.cons_open rest).fromSign h

end Signs

section Conditions

variable {L : Lexicon} {column : List Char} {ds : List (List Char)}

theorem forall₂_of_mapM {α β : Type} {f : α → Option β} {xs : List α} {ys : List β}
    (h : xs.mapM f = some ys) : List.Forall₂ (fun x y => f x = some y) xs ys := by
  induction xs generalizing ys with
  | nil =>
    obtain rfl := Option.some.inj h
    exact .nil
  | cons x xs ih =>
    simp only [List.mapM_cons, Option.bind_eq_bind, Option.bind_eq_some_iff, Option.pure_def,
      Option.some.injEq] at h
    obtain ⟨y, hy, ys, hys, rfl⟩ := h
    exact .cons hy (ih hys)

theorem isSome_mapM {α β : Type} (f : α → Option β) (xs : List α) :
    (xs.mapM f).isSome = xs.all fun x => (f x).isSome := by
  induction xs with
  | nil => rfl
  | cons x xs ih =>
    rw [List.mapM_cons, List.all_cons, ← ih]
    cases f x <;> cases xs.mapM f <;> rfl

/-- What is read as equalities has their values only if each of the conditions is one. -/
theorem forall₂_isEquality_iff {values : List (List Char)}
    (h : List.Forall₂ (ReadsAs column) ds values) :
    List.Forall₂ (L.IsEquality column) ds values ↔ ∀ d ∈ ds, ∃ v, L.IsEquality column d v := by
  induction h with
  | nil => exact ⟨fun _ => nofun, fun _ => .nil⟩
  | cons hread _ ih =>
    rw [List.forall₂_cons, List.forall_mem_cons, ih]
    refine and_congr_left fun _ => ⟨fun hd => ⟨_, hd⟩, ?_⟩
    rintro ⟨v, hd⟩
    rwa [hd.eq_of_readsAs hread]

/-- Behind an equality no array is looked for. -/
theorem containment?_alternation {d v : List Char} (hd : L.IsEquality column d v)
    (ds : List (List Char)) : containment? column (alternation (d :: ds)) = none := by
  rw [Option.eq_none_iff_forall_ne_some]
  intro values hvalues
  obtain ⟨right, literal, hright, -⟩ := hd.fromSign
  obtain ⟨t, ht⟩ := fromSign_alternation ds hright
  obtain ⟨r, hr⟩ := containment?_fromSign hvalues
  exact absurd (List.cons.inj (ht.symm.trans hr)).1 (by decide)

/-- The values of an alternation where all of its conditions are read, and where one is not. -/
theorem values_alternation (column : List Char) (hlen : 2 ≤ ds.length)
    (h : ∀ d ∈ ds, Balanced d) (hnone : anyArray? (alternation ds) = none) :
    ((∀ d ∈ ds, ∃ v, ReadsAs column d v) ∧
      List.Forall₂ (ReadsAs column) ds ((valueSet? column (alternation ds)).getD [])) ∨
    ((∃ d ∈ ds, ∀ v, ¬ReadsAs column d v) ∧
      (valueSet? column (alternation ds)).getD [] =
        (containment? column (alternation ds)).getD []) := by
  have hall := isSome_mapM (fun d => equality? column (stripOuterParens (trim d))) ds
  rw [valueSet?_alternation column hlen h hnone]
  cases hread : ds.mapM fun d => equality? column (stripOuterParens (trim d)) with
  | some values =>
    rw [hread, Option.isSome_some, eq_comm, List.all_eq_true] at hall
    refine .inl ⟨fun d hd => ?_, (forall₂_of_mapM hread).imp fun d v => equality?_eq_some_iff.1⟩
    obtain ⟨v, hv⟩ := Option.isSome_iff_exists.1 (hall d hd)
    exact ⟨v, equality?_eq_some_iff.1 hv⟩
  | none =>
    rw [hread, Option.isSome_none, eq_comm, List.all_eq_false] at hall
    obtain ⟨d, hd, hnot⟩ := hall
    refine .inr ⟨⟨d, hd, fun v hv => hnot ?_⟩, rfl⟩
    exact Option.isSome_of_eq_some (equality?_eq_some_iff.2 hv)

theorem valueSet?_alternation_iff (L : Lexicon) (column : List Char) (hlen : 2 ≤ ds.length)
    (h : ∀ d ∈ ds, Balanced d) (hnone : anyArray? (alternation ds) = none) :
    ((valueSet? column (alternation ds)).getD [] ≠ [] →
      List.Forall₂ (L.IsEquality column) ds ((valueSet? column (alternation ds)).getD [])) ↔
    ((∀ d ∈ ds, ∃ v, ReadsAs column d v) → ∀ d ∈ ds, ∃ v, L.IsEquality column d v) ∧
    ((∃ d ∈ ds, ∀ v, ¬ReadsAs column d v) →
      (containment? column (alternation ds)).getD [] = []) := by
  obtain ⟨d, ds, rfl⟩ : ∃ d es, ds = d :: es := List.exists_cons_of_length_pos (by omega)
  rcases values_alternation column hlen h hnone with ⟨hall, hread⟩ | ⟨⟨e, he, hnot⟩, hvalues⟩
  · generalize (valueSet? column (alternation (d :: ds))).getD [] = values at hread ⊢
    have hne : values ≠ [] := by
      rintro rfl
      nomatch hread
    have hread' : ¬∃ e ∈ d :: ds, ∀ v, ¬ReadsAs column e v := by
      rintro ⟨e, he, hnot⟩
      exact (hall e he).elim hnot
    rw [forall₂_isEquality_iff hread]
    exact ⟨fun hvalues => ⟨fun _ => hvalues hne, fun hnot => absurd hnot hread'⟩,
      fun hvalues _ => hvalues.1 hall⟩
  · rw [hvalues]
    refine ⟨fun hequal => ⟨fun hall => ((hall e he).elim hnot).elim, fun _ => ?_⟩,
      fun hempty hne => absurd (hempty.2 ⟨e, he, hnot⟩) hne⟩
    by_contra hne
    obtain ⟨v, -, hd, -⟩ := List.forall₂_cons_left_iff.1 (hequal hne)
    rw [containment?_alternation hd] at hne
    exact hne rfl

theorem clauseValues_alternation (column : List Char) (hlen : 2 ≤ ds.length)
    (h : ∀ d ∈ ds, Balanced d) : clauseValues column (alternation ds) =
      (valueSet? column (alternation (ds.map freed))).getD [] := by
  rw [clauseValues, condition_alternation hlen h]

/-- The conditions of a chain of equalities are equalities. -/
theorem isEquality_equality {v : List Char} (htext : L.IsType "text".toList)
    (hcolumn : IsName column) (hv : v ≠ []) : L.IsEquality column (equality column v) v := by
  have hgap : IsGap [' '] := by decide
  have hempty : IsGap [] := nofun
  have hends : hasParenEnds (quoteLiteral v ++ ([] ++ ':' :: ':' :: "text".toList)) = false := by
    simp [hasParenEnds, quoteLiteral_eq]
  refine ⟨hv, column ++ [' '], ' ' :: (quoteLiteral v ++ "::text".toList), column, quoteLiteral v,
    ?_, ?_, ?_, .quoted v, ?_⟩
  · rw [strip_equality hcolumn, equality]
    simp
  · exact ⟨column, hcolumn.1, fun c hc => (hcolumn.2 c hc).1, sameColumn_self hcolumn, .inl rfl⟩
  · exact ⟨[], column, column, [' '], rfl, hempty, hgap, .plain, .core⟩
  · exact ⟨[' '], _, _, [], by simp, hgap, hempty, .cast .core hempty htext hends, .core⟩

end Conditions

/-- The clause that joins conditions in parentheses. -/
def alternationClause (ds : List String) : String :=
  String.ofList (alternation (ds.map String.toList))

/-- The conditions of a clause as they are read, their quotes freed of backslashes. -/
def freedConditions (ds : List String) : List (List Char) := ds.map fun d => freed d.toList

/-- Where every condition is read as an equality, each value is that of all that follows the sign.
These are the values of equalities exactly if every condition is one with a single literal; and
where some condition is not read, there are no values unless the first one compares an array. -/
theorem enumValues_alternation_iff (L : Lexicon) (column : String) {ds : List String}
    (hlen : 2 ≤ ds.length) (hds : ∀ d ∈ ds, Balanced d.toList) :
    (∀ body, anyArray? (alternation (freedConditions ds)) = some body →
      enumValues column [alternationClause ds] = (literalValues body).map String.ofList) ∧
    (anyArray? (alternation (freedConditions ds)) = none →
      ((∀ d ∈ freedConditions ds, ∃ v, ReadsAs column.toList d v) →
        List.Forall₂ (fun d v => ReadsAs column.toList d v.toList) (freedConditions ds)
          (enumValues column [alternationClause ds])) ∧
      ((enumValues column [alternationClause ds] ≠ [] →
          List.Forall₂ (fun d v => L.IsEquality column.toList d v.toList) (freedConditions ds)
            (enumValues column [alternationClause ds])) ↔
        ((∀ d ∈ freedConditions ds, ∃ v, ReadsAs column.toList d v) →
          ∀ d ∈ freedConditions ds, ∃ v, L.IsEquality column.toList d v) ∧
        ((∃ d ∈ freedConditions ds, ∀ v, ¬ReadsAs column.toList d v) →
          (containment? column.toList (alternation (freedConditions ds))).getD [] = []))) := by
  have hbalanced : ∀ d ∈ ds.map String.toList, Balanced d := List.forall_mem_map.2 hds
  have hplain : ∀ d ∈ freedConditions ds, Balanced d := List.forall_mem_map.2 fun d hd =>
    (hds d hd).freed
  have hlength : 2 ≤ (freedConditions ds).length := by rwa [freedConditions, List.length_map]
  have hclause : clauseValues column.toList (alternation (ds.map String.toList)) =
      (valueSet? column.toList (alternation (freedConditions ds))).getD [] := by
    rw [clauseValues_alternation column.toList (by rwa [List.length_map]) hbalanced, List.map_map]
    rfl
  have hvalues : (enumValues column [alternationClause ds]).map String.toList =
      (valueSet? column.toList (alternation (freedConditions ds))).getD [] := by
    rw [← hclause]
    exact (enumValues_singleton_eq_iff.1 rfl).symm
  refine ⟨fun body hbody => ?_, fun hnone => ⟨fun hall => ?_, ?_⟩⟩
  · rw [alternationClause, enumValues_singleton_eq_iff, hclause, valueSet?, hbody]
    simp [Function.comp_def]
  · rcases values_alternation column.toList hlength hplain hnone with ⟨-, hread⟩ | ⟨hnot, -⟩
    · rwa [← hvalues, List.forall₂_map_right_iff] at hread
    · obtain ⟨d, hd, hd'⟩ := hnot
      exact (hall d hd).elim fun v hv => (hd' v hv).elim
  · have hiff := valueSet?_alternation_iff L column.toList hlength hplain hnone
    rwa [← hvalues, List.forall₂_map_right_iff, ne_eq, List.map_eq_nil_iff] at hiff

theorem enumValues_alternation_kind :
    enumValues "kind" ["(kind = 'a'::text) OR (kind = 'b'::text)"] = ["a", "b"] ∧
      List.Forall₂ (fun d v => asciiWords.IsEquality "kind".toList d v.toList)
        (freedConditions ["kind = 'a'::text", "kind = 'b'::text"])
        (enumValues "kind" ["(kind = 'a'::text) OR (kind = 'b'::text)"]) := by
  have hvalues : enumValues "kind" ["(kind = 'a'::text) OR (kind = 'b'::text)"] = ["a", "b"] := by
    decide +kernel
  have hkind : IsName "kind".toList := isName_of_ascii (by decide) (by decide)
  have htext : asciiWords.IsType "text".toList := ⟨by decide, by decide⟩
  have hequality (v : List Char) (hv : v ≠ []) :
      asciiWords.IsEquality "kind".toList (equality "kind".toList v) v :=
    isEquality_equality htext hkind hv
  have hbalanced : ∀ d ∈ ["kind = 'a'::text", "kind = 'b'::text"], Balanced d.toList :=
    List.forall_mem_cons.2 ⟨balanced_equality hkind ['a'],
      List.forall_mem_singleton.2 (balanced_equality hkind ['b'])⟩
  have hlen : 2 ≤ ["kind = 'a'::text", "kind = 'b'::text"].length := by decide
  have halternation := enumValues_alternation_iff asciiWords "kind" hlen hbalanced
  have hall : ∀ d ∈ freedConditions ["kind = 'a'::text", "kind = 'b'::text"],
      ∃ v, asciiWords.IsEquality "kind".toList d v :=
    List.forall_mem_cons.2 ⟨⟨_, hequality ['a'] (by decide)⟩,
      List.forall_mem_singleton.2 ⟨_, hequality ['b'] (by decide)⟩⟩
  have harray : containment? "kind".toList
      (alternation (freedConditions ["kind = 'a'::text", "kind = 'b'::text"])) = none :=
    containment?_alternation (hequality ['a'] (by decide)) _
  have hequal := (halternation.2 (by decide +kernel)).2.2
    ⟨fun _ => hall, fun _ => congrArg (Option.getD · []) harray⟩
  exact ⟨hvalues, hequal (hvalues ▸ List.cons_ne_nil _ _)⟩

/-- The first condition goes on behind its literal, and all of it is taken for the value. -/
theorem enumValues_conjunction_read :
    enumValues "kind" ["(kind = 'a' AND x > 0) OR (kind = 'b')"] = ["'a' AND x > 0", "b"] ∧
      ∀ (L : Lexicon) (v : List Char),
        ¬L.IsEquality "kind".toList "kind = 'a' AND x > 0".toList v := by
  refine ⟨by decide +kernel, fun L v h => ?_⟩
  have hread : ReadsAs "kind".toList "kind = 'a' AND x > 0".toList "'a' AND x > 0".toList :=
    equality?_eq_some_iff.1 (by decide +kernel)
  have hsign : fromSign (stripOuterParens (trim "kind = 'a' AND x > 0".toList)) =
      '=' :: " 'a' AND x > 0".toList := by decide +kernel
  obtain rfl := h.eq_of_readsAs hread
  exact absurd (h.length_le (by decide) hsign) (by decide)

end ZodCatalog.Check
