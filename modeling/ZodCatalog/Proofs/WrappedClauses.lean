import ZodCatalog.Proofs.ValueRecovery

/-! Clauses with parentheses or the keyword around their condition. Whatever wraps a membership
test is taken off again, but from a bare test so are the first letters of its column if they spell
the keyword. -/

namespace ZodCatalog.Check
open Text

/-- The word `check` in any letter case. -/
def IsCheck (keyword : List Char) : Prop := keyword.map Char.toLower = "check".toList

instance (keyword : List Char) : Decidable (IsCheck keyword) :=
  inferInstanceAs (Decidable (keyword.map Char.toLower = "check".toList))

/-- A name that starts with the letters of the keyword. -/
def StartsWithCheck (column : List Char) : Prop := IsCheck (column.take 5)

instance (column : List Char) : Decidable (StartsWithCheck column) :=
  inferInstanceAs (Decidable (IsCheck (column.take 5)))

/-- A condition in parentheses, in two pairs of them, and behind the keyword. -/
def wrappings (keyword s : List Char) : List (List Char) :=
  [parenthesized s, parenthesized (parenthesized s), keyword ++ ' ' :: parenthesized s]

section Conditions

variable {keyword s : List Char}

theorem IsCheck.not_mem (h : IsCheck keyword) : '\\' ∉ keyword := by
  intro hmem
  have hlower := List.mem_map_of_mem (f := Char.toLower) hmem
  rw [h] at hlower
  exact absurd hlower (by decide)

theorem IsCheck.afterKeyword? (h : IsCheck keyword) (r : List Char) :
    afterKeyword? "check".toList (keyword ++ r) = some r := by
  have hlength : "check".toList.length = keyword.length := by rw [← h, List.length_map]
  rw [Check.afterKeyword?, hlength, List.take_left, List.drop_left]
  exact if_pos h

/-- Behind the keyword a condition starts anew. -/
theorem IsCheck.condition (h : IsCheck keyword) (s : List Char) :
    condition (keyword ++ ' ' :: parenthesized s) = stripOuterParens (parenthesized (freed s)) := by
  obtain ⟨c, r, rfl, hc⟩ : ∃ c r, keyword = c :: r ∧ isBlank c = false := by
    cases keyword with
    | nil => exact nomatch h
    | cons c r =>
      have hlower : c.toLower = 'c' := (List.cons.inj h).1
      exact ⟨c, r, rfl, by rw [← isBlank_toLower, hlower]; decide⟩
  have hfreed : freed (c :: r ++ ' ' :: parenthesized s) =
      c :: r ++ ' ' :: parenthesized (freed s) := by
    have hspace : freed (' ' :: parenthesized s) = ' ' :: freed (parenthesized s) :=
      freed_append_of_not_mem (s := [' ']) (by decide) _
    rw [freed_append_of_not_mem h.not_mem, hspace, freed_parenthesized]
  have htrim : trim (c :: r ++ ' ' :: parenthesized (freed s)) =
      c :: r ++ ' ' :: parenthesized (freed s) := by
    have hends : c :: r ++ ' ' :: parenthesized (freed s) =
        c :: ((r ++ " (".toList ++ freed s) ++ [')']) := by simp [parenthesized]
    rw [hends]
    exact trim_eq_self hc (by decide) _
  have hinner : trim (' ' :: parenthesized (freed s)) = parenthesized (freed s) :=
    (trim_blank_cons (by decide) _).trans (trim_eq_self (by decide) (by decide) _)
  rw [Check.condition, ← freed, hfreed, htrim, h.afterKeyword?]
  show stripOuterParens (trim (' ' :: parenthesized (freed s))) = _
  rw [hinner]

/-- What wraps a balanced condition is taken off again. -/
theorem condition_wrapped (hkeyword : IsCheck keyword) (hs : Balanced s) :
    ∀ w ∈ wrappings keyword s, condition w = stripOuterParens (trim (freed s)) := by
  have hinner : trim (parenthesized (freed s)) = parenthesized (freed s) :=
    trim_eq_self (by decide) (by decide) _
  have honce := stripOuterParens_parenthesized hs.freed
  simp only [wrappings, List.forall_mem_cons]
  refine ⟨condition_parenthesized hs.freed, ?_, ?_, nofun⟩
  · rw [condition_parenthesized hs.parenthesized.freed, freed_parenthesized, hinner, honce]
  · rw [hkeyword.condition, honce]

/-- A bare condition is read like a wrapped one if it does not start with the keyword. -/
theorem condition_bare (h : afterKeyword? "check".toList (trim (freed s)) = none) :
    condition s = stripOuterParens (trim (freed s)) := by
  rw [condition, ← freed, h]

end Conditions

section Membership

variable {column name list : List Char}

/-- A membership test on a column. -/
def membershipTest (column list : List Char) : List Char :=
  column ++ " IN (".toList ++ list ++ [')']

theorem membershipTest_eq (column list : List Char) :
    membershipTest column list = column ++ ' ' :: 'I' :: ("N (".toList ++ list ++ [')']) := by
  simp [membershipTest]

/-- A shorter name is the name of another column. -/
theorem membership?_shorter (hname : IsName name) (hcolumn : IsName column)
    (hlt : name.length < column.length) (list : List Char) :
    membership? column (membershipTest name list) = none := by
  have hother : sameColumn name column = false := by
    rw [sameColumn_eq hcolumn, eqIgnoringAsciiCase, beq_eq_false_iff_ne]
    intro heq
    have hlength := congrArg List.length heq
    rw [List.length_map, List.length_map] at hlength
    omega
  rw [membershipTest_eq, membership?, hname.subject? (by decide) (by decide)]
  simp [hother]

theorem valueSet?_membershipTest (hcolumn : IsName column) (hlist : Balanced list)
    (hsign : '=' ∉ list) :
    valueSet? column (membershipTest column list) = some (literalValues list) := by
  have hopens : opensArray (membershipTest column list) = false :=
    opensArray_of_not_mem (by simp [membershipTest, hsign, hcolumn.not_mem])
  exact valueSet?_list hcolumn hlist hopens

/-- A text with one of the four shapes has a keyword or a sign behind its name. -/
theorem valueSet?_eq_none (hname : IsName name) {d : Char} (hd : d ∉ [')', ':', '=', '<'])
    (hb : isBlank d = false) (ho : d.toLower ≠ 'o') {r : List Char}
    (hopens : opensArray (name ++ ' ' :: d :: r) = false)
    (hmembership : membership? column (name ++ ' ' :: d :: r) = none) :
    valueSet? column (name ++ ' ' :: d :: r) = none := by
  simp only [List.mem_cons, List.not_mem_nil, or_false, not_or] at hd
  rw [valueSet?, anyArray?_eq_none hopens, hmembership,
    equalities?_name_eq_none hname (by simp [hd]) hb ho,
    containment?_eq_none hname (by simp [hd]) hb]
  rfl

theorem valueSet?_shorter (hcolumn : IsName column) (hname : IsName name)
    (hlt : name.length < column.length) (hsign : '=' ∉ list) :
    valueSet? column (membershipTest name list) = none := by
  have hopens : opensArray (membershipTest name list) = false :=
    opensArray_of_not_mem (by simp [membershipTest, hsign, hname.not_mem])
  have hmembership := membership?_shorter hname hcolumn hlt list
  rw [membershipTest_eq] at hopens hmembership ⊢
  exact valueSet?_eq_none hname (by decide) (by decide) (by decide) hopens hmembership

theorem trim_membershipTest (hname : IsName name) (list : List Char) :
    trim (membershipTest name list) = membershipTest name list := by
  have hends : membershipTest name list = name ++ ((" IN (".toList ++ list) ++ ')' :: []) := by
    simp [membershipTest]
  rw [hends, hname.trim (by decide)]
  rfl

theorem strip_membershipTest (hname : IsName name) (list : List Char) :
    stripOuterParens (trim (membershipTest name list)) = membershipTest name list := by
  rw [trim_membershipTest hname, membershipTest_eq, hname.stripOuterParens]

theorem trim_nameless (list : List Char) :
    trim (membershipTest [] list) = "IN".toList ++ ' ' :: '(' :: (list ++ [')']) := by
  have hends : membershipTest [] list = ' ' :: 'I' :: (("N (".toList ++ list) ++ [')']) := by
    simp [membershipTest]
  rw [hends, trim_blank_cons (by decide), trim_eq_self (by decide) (by decide)]
  simp

/-- Without a column the keyword `in` stands for the name of one. -/
theorem valueSet?_nameless (column : List Char) (hsign : '=' ∉ list) :
    valueSet? column (stripOuterParens (trim (membershipTest [] list))) = none := by
  have hin : IsName "IN".toList := isName_of_ascii (by decide) (by decide)
  have hopens : opensArray ("IN".toList ++ ' ' :: '(' :: (list ++ [')'])) = false :=
    opensArray_of_not_mem (by simp [hsign])
  rw [trim_nameless, hin.stripOuterParens]
  exact valueSet?_eq_none hin (by decide) (by decide) (by decide) hopens
    (membership?_eq_none hin (by decide) (by decide) (by decide) _)

end Membership

section Lists

variable {gap : List Char} (hgap : ∀ c ∈ gap, isBlank c = true)

/-- Values as quoted literals, with a comma and blanks between them. -/
def spacedList (gap : List Char) (vs : List (List Char)) : List Char :=
  joinWith (',' :: gap) (vs.map quoteLiteral)

theorem spacedList_cons_cons (v w : List Char) (vs : List (List Char)) :
    spacedList gap (v :: w :: vs) = quoteLiteral v ++ ',' :: (gap ++ spacedList gap (w :: vs)) := by
  simp [spacedList, joinWith]

include hgap in
theorem balanced_spacedList (vs : List (List Char)) : Balanced (spacedList gap vs) := by
  have hplain : Balanced (',' :: gap) := by
    refine .plain (by decide) (.of_plain fun c hc hmem => ?_)
    have hblank := hgap c hc
    simp only [List.mem_cons, List.not_mem_nil, or_false] at hmem
    rcases hmem with rfl | rfl | rfl <;> exact absurd hblank (by decide)
  induction vs with
  | nil => exact .nil
  | cons v vs ih =>
    cases vs with
    | nil => exact .quoteLiteral v
    | cons w vs =>
      rw [spacedList_cons_cons, ← List.cons_append]
      exact .literal v (hplain.append ih)

include hgap in
theorem not_mem_spacedList {c : Char} (hc : c ∉ [',', '\'']) (hblank : isBlank c = false)
    {vs : List (List Char)} (hvs : ∀ v ∈ vs, c ∉ v) : c ∉ spacedList gap vs := by
  simp only [List.mem_cons, List.not_mem_nil, or_false, not_or] at hc
  intro hmem
  rcases mem_joinWith hmem with hmem | ⟨piece, hpiece, hmem⟩
  · rcases List.mem_cons.1 hmem with rfl | hmem
    · exact hc.1 rfl
    · rw [hgap c hmem] at hblank
      contradiction
  · obtain ⟨v, hv, rfl⟩ := List.mem_map.1 hpiece
    rw [quoteLiteral_eq] at hmem
    simp only [List.mem_cons, List.mem_append, List.not_mem_nil, or_false, hc.2, false_or,
      mem_doubled] at hmem
    exact hvs v hv hmem

include hgap in
theorem literalValues_gap (s : List Char) : literalValues (gap ++ s) = literalValues s := by
  induction gap with
  | nil => rfl
  | cons c gap ih =>
    rw [List.forall_mem_cons] at hgap
    rw [List.cons_append, literalValues_blank_cons hgap.1, ih hgap.2]

include hgap in
/-- A list of literals gives back its values, however wide the gaps are. -/
theorem literalValues_spacedList {vs : List (List Char)} (hne : vs ≠ [])
    (hvs : ∀ v ∈ vs, v ≠ []) : literalValues (spacedList gap vs) = vs := by
  have hsingle {v : List Char} (hv : v ≠ []) : literalValues (quoteLiteral v) = [v] := by
    have hvalues := literalValues_literal (.inl rfl) v
    rwa [List.append_nil, filter_nonempty_eq_self (List.forall_mem_singleton.2 hv)] at hvalues
  induction vs with
  | nil => contradiction
  | cons v vs ih =>
    rw [List.forall_mem_cons] at hvs
    cases vs with
    | nil => exact hsingle hvs.1
    | cons w vs =>
      have hcomma (r : List Char) : commaPieces .start (quoteLiteral v ++ ',' :: r) =
          quoteLiteral v :: commaPieces .start r := by
        have hcut : commaPieces .start (',' :: r) = [] :: commaPieces .start r := rfl
        have hpieces := commaPieces_literal (.inl rfl) v (',' :: r)
        rwa [List.append_nil, hcut, pushText_cons_piece, List.append_nil] at hpieces
      have hvalue : literalValue? (quoteLiteral v) = some v := by
        have h := literalValue?_literal (.inl rfl) v
        rwa [List.append_nil, List.isEmpty_eq_false_iff.2 hvs.1] at h
      rw [spacedList_cons_cons, literalValues, hcomma, List.filterMap_cons_some hvalue,
        ← literalValues, literalValues_gap hgap, ih (List.cons_ne_nil w vs) hvs.2]

end Lists

section Clauses

variable {column list keyword : List Char}

theorem afterKeyword?_check (column : List Char) (r : List Char) :
    afterKeyword? "check".toList (column ++ ' ' :: r) =
      (afterKeyword? "check".toList column).map (· ++ ' ' :: r) :=
  StopsBefore.afterKeyword (by decide) column r

/-- The rest of a name behind the letters of the keyword. -/
theorem nil_or_isName_drop (hcolumn : IsName column) (n : Nat) :
    column.drop n = [] ∨ IsName (column.drop n) := by
  by_cases h : column.drop n = []
  · exact .inl h
  · exact .inr ⟨h, fun c hc => hcolumn.2 c (List.mem_of_mem_drop hc)⟩

theorem IsName.toNil (h : column = [] ∨ IsName column) {c : Char}
    (hc : c ∈ ['(', ')', '\'', '"', '=', '\\', '[', ']', ' ']) : c ∉ column := by
  rcases h with rfl | h
  · exact List.not_mem_nil
  · exact h.not_mem hc

theorem freed_membershipTest (hcolumn : column = [] ∨ IsName column) (hslash : '\\' ∉ list) :
    freed (membershipTest column list) = membershipTest column list :=
  freed_eq_self (by simp [membershipTest, hslash, IsName.toNil hcolumn])

theorem balanced_membershipTest (hcolumn : column = [] ∨ IsName column) (hlist : Balanced list) :
    Balanced (membershipTest column list) := by
  have hname : Balanced column := by
    rcases hcolumn with rfl | hcolumn
    · exact .nil
    · exact hcolumn.balanced
  have hgroup : Balanced ('(' :: (list ++ [')'])) := .group hlist .nil
  have htext : membershipTest column list =
      column ++ (" IN ".toList ++ '(' :: (list ++ [')'])) := by simp [membershipTest]
  rw [htext]
  exact hname.append (.append (.of_all (by decide)) hgroup)

/-- A condition without its wrapping gives the values of the list, if there is a column. -/
theorem valueSet?_stripped (hcolumn : column = [] ∨ IsName column) (hlist : Balanced list)
    (hsign : '=' ∉ list) :
    (valueSet? column (stripOuterParens (trim (membershipTest column list)))).getD [] =
      if column = [] then [] else literalValues list := by
  rcases hcolumn with rfl | hcolumn
  · rw [valueSet?_nameless [] hsign, if_pos rfl]
    rfl
  · rw [strip_membershipTest hcolumn, valueSet?_membershipTest hcolumn hlist hsign,
      if_neg hcolumn.1]
    rfl

/-- Around a membership test every wrapping leaves the values of its list. -/
theorem clauseValues_wrapped (hkeyword : IsCheck keyword) (hcolumn : column = [] ∨ IsName column)
    (hlist : Balanced list) (hslash : '\\' ∉ list) (hsign : '=' ∉ list) :
    ∀ w ∈ wrappings keyword (membershipTest column list),
      clauseValues column w = if column = [] then [] else literalValues list := by
  intro w hw
  rw [clauseValues, condition_wrapped hkeyword (balanced_membershipTest hcolumn hlist) w hw,
    freed_membershipTest hcolumn hslash, valueSet?_stripped hcolumn hlist hsign]

/-- A bare membership test has no values where the letters of the keyword are cut off. -/
theorem clauseValues_bare (hcolumn : column = [] ∨ IsName column)
    (hlist : Balanced list) (hslash : '\\' ∉ list) (hsign : '=' ∉ list) :
    clauseValues column (membershipTest column list) =
      if column = [] ∨ StartsWithCheck column then [] else literalValues list := by
  have hfreed := freed_membershipTest hcolumn hslash
  have hset := valueSet?_stripped hcolumn hlist hsign
  rcases hcolumn with rfl | hname
  · have hcheck : afterKeyword? "check".toList (trim (freed (membershipTest [] list))) = none := by
      rw [hfreed, trim_nameless]
      simp [afterKeyword?]
    rw [clauseValues, condition_bare hcheck, hfreed, hset]
    rfl
  have hafter : afterKeyword? "check".toList (trim (freed (membershipTest column list))) =
      if StartsWithCheck column then some (membershipTest (column.drop 5) list) else none := by
    rw [hfreed, trim_membershipTest hname, membershipTest_eq, afterKeyword?_check, afterKeyword?,
      membershipTest_eq]
    exact apply_ite (Option.map _) _ _ _
  by_cases hletters : StartsWithCheck column
  · -- What is left of the name is shorter than the name, and may be nothing.
    rw [if_pos hletters] at hafter
    have hrest : valueSet? column
        (stripOuterParens (trim (membershipTest (column.drop 5) list))) = none := by
      rcases nil_or_isName_drop hname 5 with hnil | hdrop
      · rw [hnil, valueSet?_nameless column hsign]
      · have hlt : (column.drop 5).length < column.length := by
          have hpos := List.length_pos_of_ne_nil hname.1
          rw [List.length_drop]
          omega
        rw [strip_membershipTest hdrop, valueSet?_shorter hname hdrop hlt hsign]
    rw [clauseValues, condition, ← freed, hafter, if_pos (.inr hletters)]
    show (valueSet? column _).getD [] = []
    rw [hrest]
    rfl
  · rw [if_neg hletters] at hafter
    rw [clauseValues, condition_bare hafter, hfreed, hset]
    simp [hletters]

end Clauses

/-- A membership test with a comma and blanks between its literals. -/
def testClause (gap column : String) (vs : List String) : String :=
  String.ofList (membershipTest column.toList (spacedList gap.toList (vs.map String.toList)))

/-- The clauses that wrap a condition, the keyword being in some letter case. -/
def wrappedClauses (keyword condition : String) : List String :=
  (wrappings keyword.toList condition.toList).map String.ofList

/-- However a membership test is wrapped, its values are the same, and the bare test has them too
unless its column starts with the letters of the keyword: these are cut off like the keyword. -/
theorem enumValues_wrapped_iff (column gap : String) (vs : List String)
    (hcolumn : ∀ c ∈ column.toList, c.isAlphanum = true ∨ c = '_')
    (hgap : ∀ c ∈ gap.toList, isBlank c = true) (hne : vs ≠ [])
    (hvs : ∀ v ∈ vs, v ≠ "" ∧ '\\' ∉ v.toList ∧ '=' ∉ v.toList) :
    (∀ keyword : String, IsCheck keyword.toList →
      ∀ clause ∈ wrappedClauses keyword (testClause gap column vs),
        enumValues column [clause] = if column = "" then [] else vs) ∧
    ((∀ keyword : String, IsCheck keyword.toList →
      ∀ clause ∈ wrappedClauses keyword (testClause gap column vs),
        enumValues column [clause] = enumValues column [testClause gap column vs]) ↔
      ¬StartsWithCheck column.toList) := by
  have hname : column.toList = [] ∨ IsName column.toList := by
    by_cases h : column.toList = []
    · exact .inl h
    · refine .inr (isName_of_ascii h (List.all_eq_true.2 fun c hc => ?_))
      rcases hcolumn c hc with hc | rfl
      · simp [hc]
      · rfl
  have hlists : ∀ v ∈ vs.map String.toList, v ≠ [] ∧ '\\' ∉ v ∧ '=' ∉ v := by
    intro v hv
    obtain ⟨w, hw, rfl⟩ := List.mem_map.1 hv
    exact ⟨by simpa using (hvs w hw).1, (hvs w hw).2⟩
  have hlist := balanced_spacedList hgap (vs.map String.toList)
  have hslash := not_mem_spacedList hgap (c := '\\') (by decide) (by decide)
    fun v hv => (hlists v hv).2.1
  have hsign := not_mem_spacedList hgap (c := '=') (by decide) (by decide)
    fun v hv => (hlists v hv).2.2
  have hvalues := literalValues_spacedList hgap (by simpa using hne) fun v hv => (hlists v hv).1
  have hempty : column = "" ↔ column.toList = [] := by simp
  have hwrapped : ∀ keyword : String, IsCheck keyword.toList →
      ∀ clause ∈ wrappedClauses keyword (testClause gap column vs),
        enumValues column [clause] = if column = "" then [] else vs := by
    intro keyword hkeyword clause hclause
    obtain ⟨w, hw, rfl⟩ := List.mem_map.1 hclause
    rw [testClause, String.toList_ofList] at hw
    rw [enumValues_singleton_eq_iff, clauseValues_wrapped hkeyword hname hlist hslash hsign w hw,
      hvalues, apply_ite (List.map String.toList)]
    simp only [hempty, List.map_nil]
  have hbare : enumValues column [testClause gap column vs] =
      if column = "" ∨ StartsWithCheck column.toList then [] else vs := by
    rw [testClause, enumValues_singleton_eq_iff, clauseValues_bare hname hlist hslash hsign,
      hvalues, apply_ite (List.map String.toList)]
    simp only [hempty, List.map_nil]
  refine ⟨hwrapped, ⟨fun h hletters => ?_, fun hletters keyword hkeyword clause hclause => ?_⟩⟩
  · have hcolumn : column ≠ "" := by
      rintro rfl
      exact absurd hletters (by decide)
    have hclause : String.ofList (parenthesized (testClause gap column vs).toList) ∈
        wrappedClauses "check" (testClause gap column vs) := List.mem_cons_self
    have hsame := h "check" rfl _ hclause
    rw [hwrapped "check" rfl _ hclause, if_neg hcolumn, hbare, if_pos (.inr hletters)] at hsame
    exact hne hsame
  · rw [hwrapped keyword hkeyword clause hclause, hbare]
    simp [hletters]

theorem enumValues_wrapped_kind :
    enumValues "kind" ["kind IN ('a', 'it''s')"] = ["a", "it's"] ∧
      enumValues "kind" ["((kind IN ('a', 'it''s')))"] = ["a", "it's"] ∧
      enumValues "kind" ["Check (kind IN ('a', 'it''s'))"] = ["a", "it's"] := by
  obtain ⟨hvalues, hsame⟩ := enumValues_wrapped_iff "kind" " " ["a", "it's"]
    (forall_mem_of_all (by decide)) (forall_mem_of_all (by decide)) (by decide) (by decide)
  have htwice := hvalues "Check" rfl "((kind IN ('a', 'it''s')))" (by decide)
  have hbare := hsame.2 (by decide) "Check" rfl "((kind IN ('a', 'it''s')))" (by decide)
  exact ⟨hbare.symm.trans htwice, htwice, hvalues "Check" rfl _ (by decide)⟩

/-- The first letters of `checked` are taken for the keyword. -/
theorem enumValues_bare_checked :
    enumValues "checked" ["checked IN ('a')"] ≠ enumValues "checked" ["(checked IN ('a'))"] := by
  have hname : IsName "checked".toList := isName_of_ascii (by decide) (by decide)
  have hlist : Balanced "'a'".toList := .of_settles (by decide)
  have hbare : clauseValues "checked".toList "checked IN ('a')".toList = [] :=
    (clauseValues_bare (.inr hname) hlist (by decide) (by decide)).trans (if_pos (by decide))
  have hwrapped : clauseValues "checked".toList "(checked IN ('a'))".toList = ["a".toList] := by
    have hkeyword : IsCheck "check".toList := rfl
    have hvalues := clauseValues_wrapped hkeyword (.inr hname) hlist (by decide) (by decide) _
      List.mem_cons_self
    rw [if_neg (by decide)] at hvalues
    exact hvalues.trans (literalValues_literal (.inl rfl) ['a'])
  have hempty : enumValues "checked" ["checked IN ('a')"] = [] :=
    enumValues_singleton_eq_iff.2 hbare
  have hsingle : enumValues "checked" ["(checked IN ('a'))"] = ["a"] :=
    enumValues_singleton_eq_iff.2 hwrapped
  rw [hempty, hsingle]
  decide

end ZodCatalog.Check
