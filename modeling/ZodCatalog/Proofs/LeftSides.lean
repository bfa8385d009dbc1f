import ZodCatalog.Proofs.ClauseForms

/-! The left side of a comparison as it is read: a name with a double quote on each side or none,
in parentheses that need not belong together, and a cast behind it. An equality is such a side, the
sign, and all the rest of the text. -/

namespace ZodCatalog.Check
open Text
open Pattern (isWord)

section Characters

/-- Characters that neither nest nor are signs. -/
def IsPlain (c : Char) : Prop := c ∉ ['\'', '(', ')', '=', '<']

instance (c : Char) : Decidable (IsPlain c) :=
  inferInstanceAs (Decidable (c ∉ ['\'', '(', ')', '=', '<']))

/-- Texts of blanks alone. -/
def IsGap (s : List Char) : Prop := ∀ c ∈ s, isBlank c = true

instance (s : List Char) : Decidable (IsGap s) :=
  List.decidableBAll (isBlank · = true) s

theorem not_mem_of_class {p : Char → Bool} {signs : List Char} (hp : signs.any p = false)
    {c : Char} (h : p c = true) : c ∉ signs :=
  fun hmem => List.any_eq_false.1 hp c hmem h

theorem Balanced.of_isPlain {s : List Char} (h : ∀ c ∈ s, IsPlain c) : Balanced s :=
  .of_plain fun c hc hmem => h c hc (forall_mem_of_all (by decide) c hmem)

theorem isPlain_of_isBlank {c : Char} (h : isBlank c = true) : IsPlain c :=
  not_mem_of_class (by decide) h

/-- No delimiter of a clause is part of a word, which is computed of each of them. -/
theorem not_mem_of_isWord {c : Char} (h : isWord c = true) :
    c ∉ ['\'', '(', ')', '=', '<', ':', '"'] := not_mem_of_class (by decide +kernel) h

theorem isPlain_of_isWord {c : Char} (h : isWord c = true) : IsPlain c :=
  fun hmem => not_mem_of_isWord h (forall_mem_of_all (by decide) c hmem)

theorem isPlain_of_isTypeChar {c : Char} (h : isTypeChar c = true) : IsPlain c := by
  rw [isTypeChar, Bool.or_eq_true] at h
  rcases h with h | h
  · exact isPlain_of_isWord h
  · exact isPlain_of_isBlank h

theorem isPlain_of_isArrayTypeChar {c : Char} (h : isArrayTypeChar c = true) : IsPlain c := by
  simp only [isArrayTypeChar, Bool.or_eq_true, beq_iff_eq] at h
  rcases h with (h | rfl) | rfl
  · exact isPlain_of_isTypeChar h
  · decide
  · decide

theorem not_mem_of_isColumnChar {c : Char} (h : isColumnChar c = true) :
    c ∉ ['\'', '(', ')', '=', '<', ':', '"'] := by
  simp only [isColumnChar, Bool.or_eq_true, beq_iff_eq] at h
  rcases h with h | rfl
  · exact not_mem_of_isWord h
  · decide

theorem isPlain_of_isColumnChar {c : Char} (h : isColumnChar c = true) : IsPlain c :=
  fun hmem => not_mem_of_isColumnChar h (forall_mem_of_all (by decide) c hmem)

theorem isColumnChar_eq_false {c : Char} (h : c ∈ ['\'', '(', ')', '=', '<', ':', '"']) :
    isColumnChar c = false := by
  by_contra hcolumn
  exact not_mem_of_isColumnChar (by simpa using hcolumn) h

def blankCodes : List Nat :=
  [9, 10, 11, 12, 13, 32, 0x85, 0xA0, 0x1680, 0x2000, 0x2001, 0x2002, 0x2003, 0x2004, 0x2005,
    0x2006, 0x2007, 0x2008, 0x2009, 0x200A, 0x2028, 0x2029, 0x202F, 0x205F, 0x3000]

/-- What holds of the blanks one by one. -/
theorem forall_blank {p : Char → Prop} (h : ∀ n ∈ blankCodes, p (Char.ofNat n)) {c : Char}
    (hc : isBlank c = true) : p c := by
  have hmem : c.toNat ∈ blankCodes := by
    simp [isBlank] at hc
    simp [blankCodes]
    omega
  have hchar := h c.toNat hmem
  rwa [Char.ofNat_toNat] at hchar

theorem isBlank_of_isColumnChar {c : Char} (h : isColumnChar c = true) : isBlank c = false := by
  have hnone : ∀ n ∈ blankCodes, isColumnChar (Char.ofNat n) = false := by decide +kernel
  by_contra hblank
  have hcolumn : isColumnChar c = false :=
    forall_blank (p := (isColumnChar · = false)) hnone (by simpa using hblank)
  exact Bool.false_ne_true (hcolumn.symm.trans h)

theorem isColumnChar_of_isBlank {c : Char} (h : isBlank c = true) : isColumnChar c = false := by
  by_contra hcolumn
  rw [isBlank_of_isColumnChar (by simpa using hcolumn)] at h
  contradiction

theorem isBlank_toLower (c : Char) : isBlank c.toLower = isBlank c := by
  have hletter {d : Char} (hd : 65 ≤ d.toNat ∧ d.toNat ≤ 122) : isBlank d = false := by
    simp [isBlank]
    omega
  unfold Char.toLower
  split
  · rename_i hupper
    have hrange : 65 ≤ c.toNat ∧ c.toNat ≤ 90 := hupper
    have hshift : ('a'.val - 'A'.val).toNat = 32 := rfl
    rw [hletter, hletter (by omega)]
    rw [← Char.toNat_val] at hrange ⊢
    rw [UInt32.toNat_add, hshift]
    omega
  · rfl

end Characters

section Cuts

variable {s : List Char}

theorem append_trimStart (s : List Char) : ∃ gap, s = gap ++ trimStart s ∧ IsGap gap :=
  ⟨s.takeWhile isBlank, (List.takeWhile_append_dropWhile ..).symm,
    fun _ hc => List.mem_takeWhile_imp hc⟩

theorem replicate_append_cons (n : Nat) (c : Char) (r : List Char) :
    List.replicate (n + 1) c ++ r = c :: (List.replicate n c ++ r) := rfl

theorem dropWhile_eq_replicate (d : Char) (s : List Char) :
    ∃ n, s = List.replicate n d ++ s.dropWhile (· == d) := by
  induction s with
  | nil => exact ⟨0, rfl⟩
  | cons c s ih =>
    by_cases hc : c = d
    · obtain ⟨n, hn⟩ := ih
      refine ⟨n + 1, ?_⟩
      rw [List.dropWhile_cons_of_pos (by simpa using hc), replicate_append_cons, ← hn, hc]
    · exact ⟨0, by simp [hc]⟩

theorem dropWhile_replicate_append {c d : Char} (h : c ≠ d) (n : Nat) (r : List Char) :
    (List.replicate n d ++ c :: r).dropWhile (· == d) = c :: r := by
  rw [List.dropWhile_append_of_pos, List.dropWhile_cons_of_neg (by simpa using h)]
  intro e he
  simpa using List.eq_of_mem_replicate he

theorem trimStart_gap_append (h : IsGap s) (r : List Char) : trimStart (s ++ r) = trimStart r :=
  List.dropWhile_append_of_pos h

theorem afterCast?_eq_some {r : List Char} (h : afterCast? s = some r) : s = ':' :: ':' :: r := by
  unfold afterCast? at h
  split at h
  · rw [Option.some.inj h]
  · contradiction

theorem afterCast?_cons_of_ne {c : Char} (h : c ≠ ':') (r : List Char) :
    afterCast? (c :: r) = none := by
  unfold afterCast?
  split
  · simp_all
  · rfl

end Cuts

section Names

/-- A double quote or nothing. -/
def doubleQuote (present : Bool) : List Char := if present then ['"'] else []

theorem isPlain_doubleQuote (present : Bool) : ∀ c ∈ doubleQuote present, IsPlain c := by
  cases present with
  | false => nofun
  | true => exact List.forall_mem_singleton.2 (by decide)

theorem append_afterQuote (s : List Char) :
    ∃ present, s = doubleQuote present ++ (afterChar? '"' s).getD s := by
  cases h : afterChar? '"' s with
  | none => exact ⟨false, rfl⟩
  | some r => exact ⟨true, afterChar?_eq_some.1 h⟩

theorem afterQuote_append {c : Char} (h : c ≠ '"') (present : Bool) (r : List Char) :
    (afterChar? '"' (doubleQuote present ++ c :: r)).getD (doubleQuote present ++ c :: r) =
      c :: r := by
  cases present <;> simp [doubleQuote, afterChar?, h]

/-- Texts that start behind a name and the quote after it. -/
def EndsName (s : List Char) : Prop := ∃ c r, s = c :: r ∧ isColumnChar c = false ∧ c ≠ '"'

theorem EndsName.cons {c : Char} (h : c ∈ ['\'', '(', ')', '=', '<', ':', '"']) (hquote : c ≠ '"')
    (r : List Char) : EndsName (c :: r) := ⟨c, r, rfl, isColumnChar_eq_false h, hquote⟩

theorem EndsName.gap_append {gap s : List Char} (hgap : IsGap gap) (hs : EndsName s) :
    EndsName (gap ++ s) := by
  cases gap with
  | nil => exact hs
  | cons c gap =>
    have hc : isBlank c = true := hgap c List.mem_cons_self
    refine ⟨c, gap ++ s, rfl, isColumnChar_of_isBlank hc, ?_⟩
    rintro rfl
    exact absurd hc (by decide)

theorem EndsName.closes_append (n : Nat) {s : List Char} (hs : EndsName s) :
    EndsName (List.replicate n ')' ++ s) := by
  cases n with
  | zero => exact hs
  | succ n => exact .cons (by decide) (by decide) _

theorem columnName?_eq_some {s name rest : List Char} (h : columnName? s = some (name, rest)) :
    ∃ before after, s = doubleQuote before ++ (name ++ (doubleQuote after ++ rest)) ∧
      name ≠ [] ∧ ∀ c ∈ name, isColumnChar c = true := by
  obtain ⟨before, hbefore⟩ := append_afterQuote s
  simp only [columnName?] at h
  generalize (afterChar? '"' s).getD s = t at h hbefore
  split at h
  · contradiction
  · rename_i hname
    obtain ⟨rfl, rfl⟩ := Prod.mk.inj (Option.some.inj h)
    obtain ⟨after, hafter⟩ := append_afterQuote (t.dropWhile isColumnChar)
    refine ⟨before, after, ?_, by simpa using hname, fun _ hc => List.mem_takeWhile_imp hc⟩
    rw [← hafter, List.takeWhile_append_dropWhile, ← hbefore]

theorem columnName?_append {name rest : List Char} (hne : name ≠ [])
    (hname : ∀ c ∈ name, isColumnChar c = true) (hrest : EndsName rest) (before after : Bool) :
    columnName? (doubleQuote before ++ (name ++ (doubleQuote after ++ rest))) =
      some (name, rest) := by
  obtain ⟨c, r, rfl, hc, hquote⟩ := hrest
  obtain ⟨d, q, hbehind, hd⟩ : ∃ d q, doubleQuote after ++ c :: r = d :: q ∧
      isColumnChar d = false := by
    cases after with
    | false => exact ⟨c, r, rfl, hc⟩
    | true => exact ⟨'"', c :: r, rfl, isColumnChar_eq_false (by decide)⟩
  have hfront (t : List Char) : (afterChar? '"' (doubleQuote before ++ (name ++ t))).getD
      (doubleQuote before ++ (name ++ t)) = name ++ t := by
    obtain ⟨a, s, rfl⟩ := List.exists_cons_of_ne_nil hne
    refine afterQuote_append ?_ before _
    rintro rfl
    exact not_mem_of_isColumnChar (hname '"' List.mem_cons_self) (by decide)
  have hcut : (name ++ (doubleQuote after ++ c :: r)).takeWhile isColumnChar = name ∧
      (name ++ (doubleQuote after ++ c :: r)).dropWhile isColumnChar =
        doubleQuote after ++ c :: r := by
    rw [hbehind, List.takeWhile_append_of_pos hname, List.dropWhile_append_of_pos hname]
    simp [hd]
  simp only [columnName?, hfront, hcut, List.isEmpty_eq_false_iff.2 hne,
    afterQuote_append hquote after r]
  rfl

end Names

/-- The left side of a clause in front of a cast. -/
structure LeftSide where
  opens : Nat
  lead : List Char
  quotedBefore : Bool
  name : List Char
  quotedAfter : Bool
  gap : List Char
  closes : Nat
  isGap_lead : IsGap lead
  name_ne_nil : name ≠ []
  isColumnChar_name : ∀ c ∈ name, isColumnChar c = true
  isGap_gap : IsGap gap

/-- What may stand between a left side and its sign: blanks or a cast. -/
inductive IsTail (typeChar : Char → Bool) : List Char → Prop
  | gap {s : List Char} : IsGap s → IsTail typeChar s
  | cast {type : List Char} (hne : type ≠ []) (htype : ∀ c ∈ type, typeChar c = true) :
      IsTail typeChar (':' :: ':' :: type)

namespace LeftSide

variable (l : LeftSide)

/-- The text within the parentheses. -/
def inside : List Char :=
  l.lead ++ (doubleQuote l.quotedBefore ++ (l.name ++ (doubleQuote l.quotedAfter ++ l.gap)))

def text : List Char :=
  List.replicate l.opens '(' ++ (l.inside ++ List.replicate l.closes ')')

theorem inside_ne_nil : l.inside ≠ [] := by
  simp [inside, l.name_ne_nil]

theorem isPlain_inside : ∀ c ∈ l.inside, IsPlain c := by
  simp only [inside, List.forall_mem_append]
  exact ⟨fun c hc => isPlain_of_isBlank (l.isGap_lead c hc), isPlain_doubleQuote _,
    fun c hc => isPlain_of_isColumnChar (l.isColumnChar_name c hc), isPlain_doubleQuote _,
    fun c hc => isPlain_of_isBlank (l.isGap_gap c hc)⟩

end LeftSide

section Subjects

variable {s rest t : List Char} {p : Char → Bool}

theorem subject?_eq_some {subject : Subject} (h : subject? s = some subject) :
    ∃ l : LeftSide, l.name = subject.column ∧ s = l.text ++ subject.rest := by
  simp only [subject?, Option.bind_eq_bind, Option.bind_eq_some_iff] at h
  obtain ⟨⟨name, behind⟩, hname, h⟩ := h
  obtain ⟨opens, hopens⟩ := dropWhile_eq_replicate '(' s
  obtain ⟨lead, hlead, hisGap⟩ := append_trimStart (s.dropWhile (· == '('))
  obtain ⟨before, after, hcore, hne, hchars⟩ := columnName?_eq_some hname
  obtain ⟨gap, hgap, hisGap'⟩ := append_trimStart behind
  rw [hcore] at hlead
  rw [hlead] at hopens
  have hspaced : s = List.replicate opens '(' ++ (lead ++ (doubleQuote before ++
      (name ++ (doubleQuote after ++ (gap ++ trimStart behind))))) := by
    rw [← hgap, ← hopens]
  simp only [Option.pure_def] at h
  -- Blanks are passed over in front of closing parentheses and of a cast, and kept otherwise.
  split at h
  · obtain rfl := Option.some.inj h
    obtain ⟨closes, hcloses⟩ := dropWhile_eq_replicate ')' (trimStart behind)
    refine ⟨⟨opens, lead, before, name, after, gap, closes, hisGap, hne, hchars, hisGap'⟩, rfl, ?_⟩
    rw [hspaced]
    simpa [LeftSide.text, LeftSide.inside] using hcloses
  split at h
  · obtain rfl := Option.some.inj h
    refine ⟨⟨opens, lead, before, name, after, gap, 0, hisGap, hne, hchars, hisGap'⟩, rfl, ?_⟩
    rw [hspaced]
    simp [LeftSide.text, LeftSide.inside]
  · obtain rfl := Option.some.inj h
    refine ⟨⟨opens, lead, before, name, after, [], 0, hisGap, hne, hchars, by decide⟩, rfl, ?_⟩
    rw [hopens]
    simp [LeftSide.text, LeftSide.inside]

theorem afterType?_eq_some (h : afterType? p rest = some t) :
    ∃ tail, IsTail p tail ∧ rest = tail ++ t := by
  unfold afterType? at h
  split at h
  · rename_i r hcast
    split at h
    · contradiction
    · rename_i hne
      obtain rfl := Option.some.inj h
      refine ⟨':' :: ':' :: r.takeWhile p, .cast (by simpa using hne)
        (fun _ hc => List.mem_takeWhile_imp hc), ?_⟩
      rw [afterCast?_eq_some hcast, List.cons_append, List.cons_append,
        List.takeWhile_append_dropWhile]
  · obtain rfl := Option.some.inj h
    obtain ⟨gap, hgap, hisGap⟩ := append_trimStart rest
    exact ⟨gap, .gap hisGap, hgap⟩

end Subjects

section Readings

variable {p : Char → Bool} {tail : List Char} {d : Char}

theorem isBlank_sign (hd : d ∈ ['=', '<']) : isBlank d = false :=
  forall_mem_of_all (p := fun d => isBlank d = false) (by decide) d hd

theorem afterCast?_gap_append {gap : List Char} (hgap : IsGap gap) (hd : d ∈ ['=', '<'])
    (r : List Char) : afterCast? (gap ++ d :: r) = none := by
  cases gap with
  | nil =>
    refine afterCast?_cons_of_ne ?_ r
    rintro rfl
    exact absurd hd (by decide)
  | cons c gap =>
    refine afterCast?_cons_of_ne ?_ _
    rintro rfl
    exact absurd (hgap ':' List.mem_cons_self) (by decide)

theorem trimStart_gap_sign {gap : List Char} (hgap : IsGap gap) (hd : d ∈ ['=', '<'])
    (r : List Char) : trimStart (gap ++ d :: r) = d :: r := by
  rw [trimStart_gap_append hgap, trimStart_cons (isBlank_sign hd)]

theorem afterType?_tail (htail : IsTail p tail) (hd : d ∈ ['=', '<']) (hp : p d = false)
    (r : List Char) : afterType? p (tail ++ d :: r) = some (d :: r) := by
  cases htail with
  | gap hgap => rw [afterType?, afterCast?_gap_append hgap hd, trimStart_gap_sign hgap hd]
  | @cast type hne htype =>
    have htake : (type ++ d :: r).takeWhile p = type := by
      rw [List.takeWhile_append_of_pos htype, List.takeWhile_cons_of_neg (by simp [hp]),
        List.append_nil]
    have hdrop : (type ++ d :: r).dropWhile p = d :: r := by
      rw [List.dropWhile_append_of_pos htype, List.dropWhile_cons_of_neg (by simp [hp])]
    show (if ((type ++ d :: r).takeWhile p).isEmpty = true then none
      else some ((type ++ d :: r).dropWhile p)) = _
    rw [htake, hdrop, if_neg (by simpa using hne)]

theorem endsName_tail (htail : IsTail p tail) (hd : d ∈ ['=', '<']) (r : List Char) :
    EndsName (tail ++ d :: r) := by
  cases htail with
  | gap hgap =>
    refine .gap_append hgap (.cons (forall_mem_of_all (by decide) d hd) ?_ r)
    rintro rfl
    exact absurd hd (by decide)
  | cast _ _ => exact .cons (by decide) (by decide) _

theorem dropWhile_closes_tail (htail : IsTail p tail) (hd : d ∈ ['=', '<']) (n : Nat)
    (r : List Char) :
    (List.replicate n ')' ++ (tail ++ d :: r)).dropWhile (· == ')') = tail ++ d :: r := by
  obtain ⟨c, s, htext, hc⟩ : ∃ c s, tail ++ d :: r = c :: s ∧ c ≠ ')' := by
    cases htail with
    | gap hgap =>
      cases tail with
      | nil => exact ⟨d, r, rfl, by rintro rfl; exact absurd hd (by decide)⟩
      | cons c tail =>
        refine ⟨c, tail ++ d :: r, rfl, ?_⟩
        rintro rfl
        exact absurd (hgap ')' List.mem_cons_self) (by decide)
    | cast _ _ => exact ⟨':', _, rfl, by decide⟩
  rw [htext, dropWhile_replicate_append hc]

namespace LeftSide

variable (l : LeftSide)

theorem columnName?_text {w : List Char} (hw : EndsName w) :
    columnName? (trimStart ((l.text ++ w).dropWhile (· == '('))) =
      some (l.name, l.gap ++ (List.replicate l.closes ')' ++ w)) := by
  obtain ⟨c, s, hinside⟩ := List.exists_cons_of_ne_nil l.inside_ne_nil
  have hc : c ≠ '(' := by
    rintro rfl
    exact l.isPlain_inside '(' (hinside ▸ List.mem_cons_self) (by simp)
  have hdrop : (l.text ++ w).dropWhile (· == '(') =
      l.lead ++ (doubleQuote l.quotedBefore ++ (l.name ++ (doubleQuote l.quotedAfter ++
        (l.gap ++ (List.replicate l.closes ')' ++ w))))) := by
    rw [text, List.append_assoc, hinside, List.append_assoc, List.cons_append,
      dropWhile_replicate_append hc, ← List.cons_append, ← hinside, inside]
    simp
  have htrim (r : List Char) : trimStart (doubleQuote l.quotedBefore ++ (l.name ++ r)) =
      doubleQuote l.quotedBefore ++ (l.name ++ r) := by
    obtain ⟨a, name, hname⟩ := List.exists_cons_of_ne_nil l.name_ne_nil
    have ha : isBlank a = false :=
      isBlank_of_isColumnChar (l.isColumnChar_name a (hname ▸ List.mem_cons_self))
    rw [hname]
    cases l.quotedBefore with
    | false => exact trimStart_cons ha _
    | true => exact trimStart_cons (by decide) _
  rw [hdrop, trimStart_gap_append l.isGap_lead, htrim]
  exact columnName?_append l.name_ne_nil l.isColumnChar_name
    (.gap_append l.isGap_gap (.closes_append _ hw)) _ _

/-- A left side is read as the name in it, and behind its tail the sign comes. -/
theorem subject?_text (htail : IsTail p tail) (hd : d ∈ ['=', '<']) (hp : p d = false)
    (r : List Char) : ∃ rest, subject? (l.text ++ (tail ++ d :: r)) = some ⟨l.name, rest⟩ ∧
      afterType? p rest = some (d :: r) := by
  have hname := l.columnName?_text (endsName_tail htail hd r)
  have hunspaced : trimStart (l.gap ++ (List.replicate l.closes ')' ++ (tail ++ d :: r))) =
      trimStart (List.replicate l.closes ')' ++ (tail ++ d :: r)) :=
    trimStart_gap_append l.isGap_gap _
  simp only [subject?, Option.bind_eq_bind, hname, Option.bind_some, hunspaced, Option.pure_def]
  cases hcloses : l.closes with
  | succ n =>
    have htrim : trimStart (List.replicate (n + 1) ')' ++ (tail ++ d :: r)) =
        List.replicate (n + 1) ')' ++ (tail ++ d :: r) := trimStart_cons (by decide) _
    have hhead : (List.replicate (n + 1) ')' ++ (tail ++ d :: r)).head? = some ')' := rfl
    rw [htrim, hhead, if_pos (by decide), dropWhile_closes_tail htail hd]
    exact ⟨_, rfl, afterType?_tail htail hd hp r⟩
  | zero =>
    rw [List.replicate_zero, List.nil_append]
    have hsign : d ≠ ')' ∧ d ≠ ':' := by
      constructor <;> (rintro rfl; exact absurd hd (by decide))
    cases htail with
    | gap hgap =>
      have hboth : IsGap (l.gap ++ tail) := List.forall_mem_append.2 ⟨l.isGap_gap, hgap⟩
      rw [trimStart_gap_sign hgap hd, if_neg (by simpa using hsign.1),
        afterCast?_cons_of_ne hsign.2, if_neg (by decide), ← List.append_assoc]
      exact ⟨_, rfl, afterType?_tail (.gap hboth) hd hp r⟩
    | @cast type hne htype =>
      have htrim : trimStart (':' :: ':' :: type ++ d :: r) = ':' :: ':' :: type ++ d :: r :=
        trimStart_cons (by decide) _
      have hcast : (afterCast? (':' :: ':' :: type ++ d :: r)).isSome = true := rfl
      rw [htrim, if_neg (by simp), if_pos hcast]
      exact ⟨_, rfl, afterType?_tail (.cast hne htype) hd hp r⟩

end LeftSide

/-- An equality of the column is read from a left side with its name, the sign, and a text that
has a value. -/
theorem equality?_eq_some_iff {column s v : List Char} :
    equality? column s = some v ↔ ∃ (l : LeftSide) (tail right : List Char),
      s = l.text ++ (tail ++ '=' :: right) ∧ IsTail isTypeChar tail ∧
        sameColumn l.name column = true ∧ literalValue? right = some v := by
  constructor
  · intro h
    simp only [equality?, Option.bind_eq_bind, Option.bind_eq_some_iff,
      Option.ite_none_right_eq_some] at h
    obtain ⟨subject, hsubject, rest, hrest, right, hright, hcolumn, hvalue⟩ := h
    obtain ⟨l, hname, rfl⟩ := subject?_eq_some hsubject
    obtain ⟨tail, htail, hrest⟩ := afterType?_eq_some hrest
    refine ⟨l, tail, right, ?_, htail, hname ▸ hcolumn, hvalue⟩
    rw [hrest, afterChar?_eq_some.1 hright]
  · rintro ⟨l, tail, right, rfl, htail, hcolumn, hvalue⟩
    have hsign : isTypeChar '=' = false := by
      by_contra htype
      exact isPlain_of_isTypeChar (by simpa using htype) (by decide)
    obtain ⟨rest, hsubject, hrest⟩ :=
      l.subject?_text htail (d := '=') (by decide) hsign right
    have hright : afterChar? '=' ('=' :: right) = some right := rfl
    simp only [equality?, hsubject, Option.bind_eq_bind, Option.bind_some, hrest, hright]
    rw [if_pos hcolumn, hvalue]

end Readings

end ZodCatalog.Check
