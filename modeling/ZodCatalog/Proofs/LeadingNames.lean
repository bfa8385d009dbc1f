import ZodCatalog.Proofs.EqualityReadings

/-! The column that a condition speaks of. Every reader but that of comparisons with any element
takes its column from the start of the condition, behind parentheses and blanks. So a condition
limits one column only, and all spellings of that column get the same values. -/

namespace ZodCatalog.Check
open Text

/-- A column name without the double quotes at its ends. -/
def bareName (column : List Char) : List Char :=
  ((column.dropWhile (· == '"')).reverse.dropWhile (· == '"')).reverse

/-- Names of one column: they differ in double quotes at their ends and in ASCII case at most. -/
def SpellSame (column other : List Char) : Prop :=
  eqIgnoringAsciiCase (bareName column) (bareName other) = true

instance (column other : List Char) : Decidable (SpellSame column other) :=
  inferInstanceAs (Decidable (eqIgnoringAsciiCase (bareName column) (bareName other) = true))

section Spellings

variable {written column other : List Char}

theorem sameColumn_iff : sameColumn written column = true ↔
    written.map Char.toLower = (bareName column).map Char.toLower := beq_iff_eq

theorem spellSame_iff : SpellSame column other ↔
    (bareName column).map Char.toLower = (bareName other).map Char.toLower := beq_iff_eq

theorem SpellSame.of_written (hcolumn : sameColumn written column = true)
    (hother : sameColumn written other = true) : SpellSame column other :=
  spellSame_iff.2 ((sameColumn_iff.1 hcolumn).symm.trans (sameColumn_iff.1 hother))

theorem SpellSame.sameColumn_eq (h : SpellSame column other) (written : List Char) :
    sameColumn written column = sameColumn written other := by
  rw [Bool.eq_iff_iff, sameColumn_iff, sameColumn_iff, spellSame_iff.1 h]

/-- The values of a condition depend on what its column is, not on how that is spelled. -/
theorem SpellSame.valueSet?_eq (h : SpellSame column other) (s : List Char) :
    valueSet? column s = valueSet? other s := by
  simp only [valueSet?, membership?, equalities?, equality?, containment?, h.sameColumn_eq]

end Spellings

/-- Characters in front of the name that a condition starts with. -/
def isOpening (c : Char) : Bool := c == '(' || isBlank c

/-- The name at the start of a condition, behind parentheses, blanks and a double quote. -/
def leadingName (s : List Char) : List Char :=
  let opened := s.dropWhile isOpening
  ((afterChar? '"' opened).getD opened).takeWhile isColumnChar

section Starts

variable {s : List Char} {c : Char}

theorem isOpening_of_isColumnChar (h : isColumnChar c = true) : isOpening c = false := by
  have hopen : c ≠ '(' := by
    rintro rfl
    exact not_mem_of_isColumnChar h (by decide)
  simp [isOpening, hopen, isBlank_of_isColumnChar h]

theorem leadingName_opening_append {front : List Char} (h : ∀ c ∈ front, isOpening c = true)
    (s : List Char) : leadingName (front ++ s) = leadingName s := by
  rw [leadingName, leadingName, List.dropWhile_append_of_pos h]

theorem takeWhile_append_cons_of_neg {p : Char → Bool} (h : p c = false) (s r : List Char) :
    (s ++ c :: r).takeWhile p = s.takeWhile p := by
  induction s with
  | nil => exact List.takeWhile_cons_of_neg (by simp [h])
  | cons d s ih => rw [List.cons_append, List.takeWhile_cons, List.takeWhile_cons, ih]

/-- What follows a name does not change it. -/
theorem leadingName_append_cons (h : leadingName s ≠ []) (hc : isColumnChar c = false)
    (r : List Char) : leadingName (s ++ c :: r) = leadingName s := by
  cases hopened : s.dropWhile isOpening with
  | nil => simp [leadingName, hopened, afterChar?] at h
  | cons d t =>
    have happend : (s ++ c :: r).dropWhile isOpening = d :: (t ++ c :: r) := by
      rw [List.dropWhile_append, hopened]
      rfl
    rw [leadingName, leadingName, hopened, happend]
    by_cases hd : d = '"'
    · simp only [afterChar?, if_pos hd, Option.getD_some]
      exact takeWhile_append_cons_of_neg hc t r
    · simp only [afterChar?, if_neg hd, Option.getD_none]
      exact takeWhile_append_cons_of_neg hc (d :: t) r

theorem leadingName_trim (h : leadingName (trim s) ≠ []) :
    leadingName s = leadingName (trim s) := by
  obtain ⟨lead, trail, htrim, hlead, htrail⟩ := exists_trim s
  have hopening : ∀ c ∈ lead, isOpening c = true := fun c hc => by simp [isOpening, hlead c hc]
  conv_lhs => rw [htrim]
  rw [leadingName_opening_append hopening]
  cases trail with
  | nil => rw [List.append_nil]
  | cons c trail =>
    exact leadingName_append_cons h (isColumnChar_of_isBlank (htrail c List.mem_cons_self)) trail

theorem leadingName_stripOuterParens (h : leadingName (stripOuterParens s) ≠ []) :
    leadingName s = leadingName (stripOuterParens s) := by
  fun_induction stripOuterParens s with
  | case1 s hwrapped ih =>
    have htrim := ih h
    have hinner : leadingName (inner s) = leadingName (trim (inner s)) :=
      leadingName_trim (htrim ▸ h)
    have hopen : leadingName ('(' :: (inner s ++ [')'])) = leadingName (inner s ++ [')']) :=
      leadingName_opening_append (List.forall_mem_singleton.2 (by decide : isOpening '(' = true)) _
    have hclose : leadingName (inner s ++ [')']) = leadingName (inner s) :=
      leadingName_append_cons (by rwa [hinner, htrim]) (isColumnChar_eq_false (by decide)) []
    conv_lhs => rw [eq_of_isWrapped hwrapped]
    rw [hopen, hclose, hinner, htrim]
  | case2 => rfl

theorem pushHead_eq_cons {pieces parts : List (List Char)} {part : List Char}
    (hne : pieces ≠ []) (h : pushHead c pieces = part :: parts) :
    ∃ piece, pieces = piece :: parts ∧ part = c :: piece := by
  obtain ⟨piece, pieces, rfl⟩ := List.exists_cons_of_ne_nil hne
  obtain ⟨rfl, rfl⟩ := List.cons.inj h
  exact ⟨piece, rfl, rfl⟩

/-- The first alternative is the whole text or ends in front of a blank. -/
theorem eq_of_alternatives {n : Nesting} {part : List Char} {parts : List (List Char)}
    (h : alternatives n s = part :: parts) : s = part ∨ ∃ r, s = part ++ ' ' :: r := by
  fun_induction alternatives n s generalizing part parts with
  | case1 n a b c d e r hcut =>
    obtain ⟨rfl, -⟩ := List.cons.inj h
    simp only [isOrSeparator, Bool.and_eq_true, beq_iff_eq] at hcut
    exact .inr ⟨b :: c :: d :: e :: r, by rw [hcut.2.1.1.1, List.nil_append]⟩
  | case2 n a b c d e r hcut ih =>
    obtain ⟨piece, hpiece, rfl⟩ := pushHead_eq_cons (alternatives_ne_nil _ _) h
    exact (ih hpiece).imp (congrArg (a :: ·)) (Exists.imp fun _ => congrArg (a :: ·))
  | case3 n a r hr ih =>
    obtain ⟨piece, hpiece, rfl⟩ := pushHead_eq_cons (alternatives_ne_nil _ _) h
    exact (ih hpiece).imp (congrArg (a :: ·)) (Exists.imp fun _ => congrArg (a :: ·))
  | case4 => exact .inl (List.cons.inj h).1

end Starts

section Readers

variable {column s : List Char}

theorem leadingName_of_subject? {subject : Subject} (h : subject? s = some subject) :
    leadingName s = subject.column ∧ subject.column ≠ [] := by
  simp only [subject?, Option.bind_eq_bind, Option.bind_eq_some_iff] at h
  obtain ⟨⟨name, rest⟩, hname, h⟩ := h
  have hcolumn : subject.column = name := by
    split_ifs at h <;> obtain rfl := Option.some.inj h <;> rfl
  obtain ⟨n, hopens⟩ := dropWhile_eq_replicate '(' s
  obtain ⟨gap, hgap, hblank⟩ := append_trimStart (s.dropWhile (· == '('))
  generalize trimStart (s.dropWhile (· == '(')) = named at hname hgap
  have hfront : ∀ c ∈ List.replicate n '(' ++ gap, isOpening c = true := by
    refine List.forall_mem_append.2 ⟨fun c hc => ?_, fun c hc => ?_⟩
    · rw [List.eq_of_mem_replicate hc]
      rfl
    · simp [isOpening, hblank c hc]
  -- The name is where the text is closed off in front: neither it nor a quote opens anything.
  have hnamed : named.dropWhile isOpening = named := by
    obtain ⟨quoted, -, rfl, hne, hchars⟩ := columnName?_eq_some hname
    cases quoted with
    | true => exact List.dropWhile_cons_of_neg (by decide)
    | false =>
      obtain ⟨c, r, rfl⟩ := List.exists_cons_of_ne_nil hne
      have hc := isOpening_of_isColumnChar (hchars c List.mem_cons_self)
      exact List.dropWhile_cons_of_neg (by simp [hc])
  rw [hopens, hgap, ← List.append_assoc, leadingName_opening_append hfront, hcolumn, leadingName,
    hnamed]
  simp only [columnName?, Option.ite_none_left_eq_some] at hname
  obtain ⟨hne, heq⟩ := hname
  obtain ⟨rfl, -⟩ := Prod.mk.inj (Option.some.inj heq)
  exact ⟨rfl, by simpa using hne⟩

/-- A condition that starts with a name of the column. -/
def Leads (column s : List Char) : Prop :=
  leadingName s ≠ [] ∧ sameColumn (leadingName s) column = true

theorem leads_of_subject? {subject : Subject} (h : subject? s = some subject)
    (hcolumn : sameColumn subject.column column = true) : Leads column s := by
  obtain ⟨hname, hne⟩ := leadingName_of_subject? h
  rw [Leads, hname]
  exact ⟨hne, hcolumn⟩

theorem leads_of_membership? {values : List (List Char)} (h : membership? column s = some values) :
    Leads column s := by
  simp only [membership?, Option.bind_eq_bind, Option.bind_eq_some_iff,
    Option.ite_none_right_eq_some, Bool.and_eq_true] at h
  obtain ⟨subject, hsubject, _, -, ⟨hcolumn, -⟩, -⟩ := h
  exact leads_of_subject? hsubject hcolumn

theorem leads_of_equality? {value : List Char} (h : equality? column s = some value) :
    Leads column s := by
  simp only [equality?, Option.bind_eq_bind, Option.bind_eq_some_iff,
    Option.ite_none_right_eq_some] at h
  obtain ⟨subject, hsubject, _, -, _, -, hcolumn, -⟩ := h
  exact leads_of_subject? hsubject hcolumn

theorem leads_of_containment? {values : List (List Char)}
    (h : containment? column s = some values) : Leads column s := by
  simp only [containment?, Option.bind_eq_bind, Option.bind_eq_some_iff,
    Option.ite_none_right_eq_some] at h
  obtain ⟨subject, hsubject, _, -, _, -, _, -, _, -, hcolumn, -⟩ := h
  exact leads_of_subject? hsubject hcolumn

/-- The first of a chain of equalities is where the condition starts. -/
theorem leads_of_equalities? {values : List (List Char)}
    (h : equalities? column s = some values) : Leads column s := by
  obtain ⟨part, parts, hparts⟩ := List.exists_cons_of_ne_nil (alternatives_ne_nil .start s)
  simp only [equalities?, hparts, Option.ite_none_left_eq_some, List.mapM_cons,
    Option.bind_eq_bind, Option.bind_eq_some_iff] at h
  obtain ⟨-, value, hvalue, -⟩ := h
  obtain ⟨hne, hcolumn⟩ := leads_of_equality? hvalue
  have htrim := leadingName_stripOuterParens hne
  have hpart := leadingName_trim (htrim ▸ hne)
  have hfirst : leadingName part ≠ [] := by rwa [hpart, htrim]
  have hs : leadingName s = leadingName part := by
    rcases eq_of_alternatives hparts with rfl | ⟨r, rfl⟩
    · rfl
    · exact leadingName_append_cons hfirst (isColumnChar_of_isBlank (by decide)) r
  rw [Leads, hs, hpart, htrim]
  exact ⟨hne, hcolumn⟩

/-- Whichever reader accepts a condition without a comparison with any element, the column is the
name that the condition starts with. -/
theorem leads_of_valueSet? {values : List (List Char)} (hnone : anyArray? s = none)
    (h : valueSet? column s = some values) : Leads column s := by
  rw [valueSet?, hnone, Option.map_none] at h
  cases hmembership : membership? column s with
  | some => exact leads_of_membership? hmembership
  | none =>
    cases hequalities : equalities? column s with
    | some => exact leads_of_equalities? hequalities
    | none =>
      rw [hmembership, hequalities] at h
      exact leads_of_containment? h

end Readers

theorem enumValues_singleton (column clause : String) : enumValues column [clause] =
    ((valueSet? column.toList (condition clause.toList)).getD []).map String.ofList := by
  simp [enumValues, clauseValues]

theorem leads_of_enumValues {column clause : String}
    (hnone : anyArray? (condition clause.toList) = none) (h : enumValues column [clause] ≠ []) :
    Leads column.toList (condition clause.toList) := by
  rw [enumValues_singleton] at h
  cases hvalues : valueSet? column.toList (condition clause.toList) with
  | none => simp [hvalues] at h
  | some values => exact leads_of_valueSet? hnone hvalues

/-- Where a clause without a comparison with any element has values for one column, it has values
for exactly the names of that column, and the same ones for each. -/
theorem enumValues_one_column {column clause : String} (other : String)
    (hnone : anyArray? (condition clause.toList) = none)
    (hcolumn : enumValues column [clause] ≠ []) :
    (enumValues other [clause] ≠ [] ↔ SpellSame column.toList other.toList) ∧
      (enumValues other [clause] ≠ [] →
        enumValues other [clause] = enumValues column [clause]) := by
  have hsame (h : enumValues other [clause] ≠ []) : SpellSame column.toList other.toList :=
    .of_written (leads_of_enumValues hnone hcolumn).2 (leads_of_enumValues hnone h).2
  have hequal (h : SpellSame column.toList other.toList) :
      enumValues other [clause] = enumValues column [clause] := by
    rw [enumValues_singleton, enumValues_singleton, h.valueSet?_eq]
  refine ⟨⟨hsame, fun h => ?_⟩, fun h => hequal (hsame h)⟩
  rw [hequal h]
  exact hcolumn

theorem enumValues_one_column_kind :
    let clause := "((\"Kind\")::text IN ('a', 'it''s'))"
    anyArray? (condition clause.toList) = none ∧ enumValues "kind" [clause] = ["a", "it's"] ∧
      enumValues "\"KIND\"" [clause] = ["a", "it's"] ∧ enumValues "kin" [clause] = [] := by
  intro clause
  have hnone : anyArray? (condition clause.toList) = none := by decide +kernel
  have hkind : enumValues "kind" [clause] = ["a", "it's"] := by decide +kernel
  have hvalues : enumValues "kind" [clause] ≠ [] := hkind ▸ List.cons_ne_nil _ _
  have hquoted := enumValues_one_column "\"KIND\"" hnone hvalues
  have hother := enumValues_one_column "kin" hnone hvalues
  refine ⟨hnone, hkind, (hquoted.2 (hquoted.1.2 (by decide))).trans hkind, ?_⟩
  exact not_not.1 (mt hother.1.1 (by decide))

end ZodCatalog.Check
