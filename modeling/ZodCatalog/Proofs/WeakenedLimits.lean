import ZodCatalog.Proofs.ArrayValues
import ZodCatalog.Proofs.ValueRecovery

/-! Clauses that do not limit a column to the values they list: a limit with an alternative, a
negated limit, and comparisons with an array by another operator. What is read from each of them
is stated exactly. -/

namespace ZodCatalog.Check
open Text

/-- A comparison with the elements of an array whose operator is a character and an equals sign. -/
def comparison (op : Char) (cast column : List Char) (vs : List (List Char)) : List Char :=
  column ++ [' ', op] ++ arrayOperand cast vs

section ValueSets

variable {cast column : List Char} {vs : List (List Char)}

theorem alternatives_disjunction {s : List Char} (hs : Balanced s) (t : List Char) :
    alternatives .start (disjunction s t) =
      parenthesized s :: alternatives .start (parenthesized t) := by
  rw [disjunction, List.append_assoc, alternatives_parenthesized hs]
  show pushText _ (alternatives .start (" OR ".toList ++ '(' :: (t ++ [')']))) = _
  rw [alternatives_or, pushText_cons_piece, List.append_nil]
  rfl

/-- A disjunction is no chain of equalities if its first part is none. -/
theorem equalities?_disjunction (hcolumn : IsName column) {d : Char} (hd : d ∉ [')', ':', '='])
    (hb : isBlank d = false) {r : List Char} (hs : Balanced (column ++ ' ' :: d :: r))
    (t : List Char) : equalities? column (disjunction (column ++ ' ' :: d :: r) t) = none := by
  have htrim : trim (column ++ ' ' :: d :: r) = column ++ ' ' :: d :: trimEnd r :=
    hcolumn.trim hb [' '] r
  have houter : trim (parenthesized (column ++ ' ' :: d :: r)) =
      parenthesized (column ++ ' ' :: d :: r) := trim_eq_self (by decide) (by decide) _
  refine equalities?_eq_none (alternatives_disjunction hs t) ?_
  rw [houter, stripOuterParens_parenthesized hs, htrim, hcolumn.stripOuterParens]
  exact equality?_eq_none hcolumn hd hb _

/-- Of a negation only a comparison with an array is read that stands somewhere in it. -/
theorem valueSet?_negation (s : List Char) :
    valueSet? column (negation s) = (anyArray? (negation s)).map literalValues := by
  have hname : IsName "NOT".toList := isName_of_ascii (by decide) (by decide)
  have htext : negation s = "NOT".toList ++ ' ' :: '(' :: (s ++ [')']) := rfl
  rw [valueSet?, htext, membership?_eq_none hname (by decide) (by decide) (by decide),
    equalities?_name_eq_none hname (by decide) (by decide) (by decide),
    containment?_eq_none hname (by decide) (by decide)]
  cases anyArray? ("NOT".toList ++ ' ' :: '(' :: (s ++ [')'])) <;> rfl

variable (hcast : IsCast cast) (hcolumn : IsName column)

include hcast hcolumn in
theorem valueSet?_disjunction_membership (t : List Char) :
    valueSet? column (disjunction (Limit.membership.text cast column vs) t) =
      (anyArray? (disjunction (Limit.membership.text cast column vs) t)).map literalValues := by
  have hbalanced := balanced_limit hcast hcolumn .membership vs
  have hparen : disjunction (Limit.membership.text cast column vs) t =
      '(' :: (column ++ " IN (".toList ++ literalList cast vs ++
        ')' :: (") OR ".toList ++ parenthesized t)) := by
    rw [disjunction_eq, Limit.text, List.append_assoc _ Limit.membership.close]
    rfl
  have hmembership : membership? column (disjunction (Limit.membership.text cast column vs) t) =
      none := by
    -- The list is there, but the alternative follows its closing parenthesis.
    have hlist := membership?_list hcolumn (balanced_literalList hcast vs)
      (") OR ".toList ++ parenthesized t)
    rw [hparen, membership?, subject?_paren, ← membership?, hlist]
    rfl
  have hcontainment : containment? column (disjunction (Limit.membership.text cast column vs) t) =
      none := by
    rw [membership_text, disjunction_eq, containment?, subject?_paren, ← containment?,
      List.append_assoc]
    exact containment?_eq_none hcolumn (by decide) (by decide) _
  rw [valueSet?, hmembership, hcontainment]
  rw [membership_text] at hbalanced ⊢
  rw [equalities?_disjunction hcolumn (by decide) (by decide) hbalanced]
  cases anyArray? _ <;> rfl

include hcast hcolumn in
/-- An array of a containment test is read also where an alternative follows it. -/
theorem valueSet?_disjunction_containment (t : List Char) :
    valueSet? column (disjunction (Limit.containment.text cast column vs) t) =
      ((anyArray? (disjunction (Limit.containment.text cast column vs) t)).map
        literalValues).orElse fun _ => some (arrayValues cast vs) := by
  have hbalanced := balanced_limit hcast hcolumn .containment vs
  have hparen : disjunction (Limit.containment.text cast column vs) t =
      '(' :: (column ++ " <@ ARRAY[".toList ++
        (literalList cast vs ++ ']' :: (") OR ".toList ++ parenthesized t))) := by
    rw [disjunction_eq, Limit.text, List.append_assoc, List.append_assoc]
    rfl
  have hmembership : membership? column (disjunction (Limit.containment.text cast column vs) t) =
      none := by
    rw [containment_text, disjunction_eq, membership?, subject?_paren, ← membership?,
      List.append_assoc]
    exact membership?_eq_none hcolumn (by decide) (by decide) (by decide) _
  have hequalities : equalities? column
      (disjunction (Limit.containment.text cast column vs) t) = none := by
    rw [containment_text] at hbalanced ⊢
    exact equalities?_disjunction hcolumn (by decide) (by decide) hbalanced t
  have hcontainment : containment? column
      (disjunction (Limit.containment.text cast column vs) t) = some (arrayValues cast vs) := by
    rw [hparen, containment?, subject?_paren, ← containment?,
      containment?_array hcolumn (by simp), takeWhile_bracket]
    rfl
  rw [valueSet?, hmembership, hequalities, hcontainment]
  rfl

include hcolumn in
theorem valueSet?_disjunction_anyElement (t : List Char) :
    valueSet? column (disjunction (Limit.anyElement.text cast column vs) t) =
      some (arrayValues cast vs) := by
  have htext : disjunction (Limit.anyElement.text cast column vs) t =
      '(' :: (column ++ [' ']) ++
        (arrayOperand cast vs ++ (") OR ".toList ++ parenthesized t)) := by
    rw [disjunction_eq, anyElement_text]
    simp
  have hsign : '=' ∉ '(' :: (column ++ [' ']) := by
    simpa using hcolumn.not_mem (c := '=') (by simp)
  rw [htext, valueSet?_comparison hsign]

include hcolumn in
theorem valueSet?_negation_anyElement :
    valueSet? column (negation (Limit.anyElement.text cast column vs)) =
      some (arrayValues cast vs) := by
  have htext : negation (Limit.anyElement.text cast column vs) =
      "NOT (".toList ++ (column ++ [' ']) ++ (arrayOperand cast vs ++ [')']) := by
    rw [negation, parenthesized, anyElement_text]
    simp
  have hsign : '=' ∉ "NOT (".toList ++ (column ++ [' ']) := by
    simpa using hcolumn.not_mem (c := '=') (by simp)
  rw [htext, valueSet?_comparison hsign]

end ValueSets

section Comparisons

variable {cast column : List Char} {vs : List (List Char)}

theorem arrayOperand_eq_cons (cast : List Char) (vs : List (List Char)) :
    arrayOperand cast vs = '=' :: (" ANY (ARRAY[".toList ++ (literalList cast vs ++ "])".toList)) :=
  rfl

theorem freed_arrayOperand (hcast : IsCast cast) :
    freed (arrayOperand cast vs) = arrayOperand cast (vs.map freedValue) := by
  have hhead : '\\' ∉ "= ANY (ARRAY[".toList := by decide
  have hlist : freed (literalList cast vs ++ "])".toList) =
      literalList cast (vs.map freedValue) ++ "])".toList := freed_literalList hcast vs _
  have hfreed := freed_append_of_not_mem hhead (literalList cast vs ++ "])".toList)
  rw [hlist] at hfreed
  exact hfreed

theorem trim_append_arrayOperand (s : List Char) :
    trim (s ++ arrayOperand cast vs) = trimStart s ++ arrayOperand cast vs := by
  have hstart : trimStart (s ++ arrayOperand cast vs) = trimStart s ++ arrayOperand cast vs := by
    rw [arrayOperand_eq_cons]
    exact trimStart_append_cons (by decide) s _
  have hassoc (u v : List Char) : u ++ (v ++ [']', ')']) = u ++ (v ++ [']']) ++ [')'] := by simp
  obtain ⟨m, hm⟩ : ∃ m, arrayOperand cast vs = m ++ [')'] := ⟨_, hassoc _ _⟩
  rw [trim, hstart, hm, ← List.append_assoc, trimEnd_append (by decide)]
  rfl

theorem stripOuterParens_append_arrayOperand {s : List Char} (hs : '(' ∉ s) :
    stripOuterParens (s ++ arrayOperand cast vs) = s ++ arrayOperand cast vs := by
  cases s with
  | nil =>
    rw [arrayOperand_eq_cons]
    exact stripOuterParens_of_head (by decide) _
  | cons c s => exact stripOuterParens_of_head (fun e => hs (e ▸ List.mem_cons_self)) _

/-- A comparison with an array stays one when the keyword `check` is taken off its front. -/
theorem condition_arrayOperand (vs : List (List Char)) (hcast : IsCast cast) {s : List Char}
    (hslash : '\\' ∉ s) (hparen : '(' ∉ s) : ∃ t, t.Sublist s ∧
      condition (s ++ arrayOperand cast vs) = t ++ arrayOperand cast (vs.map freedValue) := by
  have hcut : afterKeyword? "check".toList
      (trimStart s ++ arrayOperand cast (vs.map freedValue)) =
        (afterKeyword? "check".toList (trimStart s)).map
          (· ++ arrayOperand cast (vs.map freedValue)) := by
    rw [arrayOperand_eq_cons]
    exact StopsBefore.afterKeyword (by decide) _ _
  have htrim : (trimStart s).Sublist s := (List.dropWhile_suffix _).sublist
  rw [condition, ← freed, freed_append_of_not_mem hslash, freed_arrayOperand hcast,
    trim_append_arrayOperand, hcut]
  cases hrest : afterKeyword? "check".toList (trimStart s) with
  | none =>
    refine ⟨trimStart s, htrim, ?_⟩
    exact stripOuterParens_append_arrayOperand fun h => hparen (htrim.subset h)
  | some rest =>
    have hsub : (trimStart rest).Sublist s :=
      ((List.dropWhile_suffix _).sublist.trans (afterKeyword?_suffix hrest).sublist).trans htrim
    refine ⟨trimStart rest, hsub, ?_⟩
    show stripOuterParens (trim (rest ++ arrayOperand cast (vs.map freedValue))) = _
    rw [trim_append_arrayOperand]
    exact stripOuterParens_append_arrayOperand fun h => hparen (hsub.subset h)

end Comparisons

section Clauses

variable {cast column : List Char} {vs : List (List Char)}

/-- The values of the first comparison with an array that stands anywhere in a clause. -/
def foundValues? (clause : List Char) : Option (List (List Char)) :=
  (anyArray? (condition clause)).map literalValues

theorem arrayValues_freed_eq_nil_iff (hcast : IsCast cast) :
    arrayValues cast (vs.map freedValue) = [] ↔ ∀ v ∈ vs, v = [] ∨ v = ['\\'] := by
  rw [arrayValues_eq_nil_iff hcast, List.forall_mem_map]
  exact forall₂_congr fun v _ => freedValue_eq_nil_iff

theorem stripOuterParens_sublist (s : List Char) : (stripOuterParens s).Sublist s := by
  fun_induction stripOuterParens s with
  | case1 s h ih => exact ih.trans ((trim_sublist _).trans (inner_sublist s))
  | case2 s h => exact .refl _

theorem condition_sublist (clause : List Char) : (condition clause).Sublist clause := by
  have hfreed : (trim (freed clause)).Sublist clause :=
    (trim_sublist _).trans ((replacePair_sublist _ _ _).trans (replacePair_sublist _ _ _))
  rw [condition, ← freed]
  split
  · rename_i rest hrest
    exact (stripOuterParens_sublist _).trans ((trim_sublist rest).trans
      ((afterKeyword?_suffix hrest).sublist.trans hfreed))
  · exact (stripOuterParens_sublist _).trans hfreed

theorem foundValues?_eq_none {clause : List Char} (h : '=' ∉ clause) :
    foundValues? clause = none := by
  have hsign : '=' ∉ condition clause := fun hmem => h ((condition_sublist clause).subset hmem)
  rw [foundValues?, anyArray?_eq_none (opensArray_of_not_mem hsign)]
  rfl

variable (hcast : IsCast cast) (hcolumn : IsName column)

include hcast hcolumn in
theorem clauseValues_disjunction_anyElement (p : List Char) :
    clauseValues column (disjunction (Limit.anyElement.text cast column vs) p) =
      arrayValues cast (vs.map freedValue) := by
  rw [clauseValues, condition_disjunction hcast hcolumn, valueSet?_disjunction_anyElement hcolumn]
  rfl

include hcast hcolumn in
theorem clauseValues_negation_anyElement :
    clauseValues column (negation (Limit.anyElement.text cast column vs)) =
      arrayValues cast (vs.map freedValue) := by
  rw [clauseValues, condition_negation, freed_limit_text hcast hcolumn,
    valueSet?_negation_anyElement hcolumn]
  rfl

include hcolumn in
theorem not_mem_comparison_lead {op c : Char} (hop : op ∈ ['>', '<', '!'])
    (hc : c ∈ ['(', '=', '\\']) : c ∉ column ++ [' ', op] := by
  simp only [List.mem_cons, List.not_mem_nil, or_false] at hop hc
  have hname : c ∉ column := by
    rcases hc with rfl | rfl | rfl <;> exact hcolumn.not_mem (by decide)
  have hspaced : c ∉ [' ', op] := by
    rcases hop with rfl | rfl | rfl <;> rcases hc with rfl | rfl | rfl <;> decide
  rw [List.mem_append, not_or]
  exact ⟨hname, hspaced⟩

include hcast hcolumn in
theorem clauseValues_comparison (vs : List (List Char)) {op : Char} (hop : op ∈ ['>', '<', '!']) :
    clauseValues column (comparison op cast column vs) = arrayValues cast (vs.map freedValue) := by
  obtain ⟨t, ht, hcondition⟩ := condition_arrayOperand vs hcast
    (not_mem_comparison_lead hcolumn hop (by simp)) (not_mem_comparison_lead hcolumn hop (by simp))
  have hsign : '=' ∉ t := fun hmem =>
    not_mem_comparison_lead hcolumn hop (by simp) (ht.subset hmem)
  rw [clauseValues, comparison, hcondition, valueSet?_append_arrayOperand hsign]
  rfl

include hcast hcolumn in
theorem clauseValues_parenthesized_comparison (vs : List (List Char)) {op : Char}
    (hop : op ∈ ['>', '<', '!']) :
    clauseValues column (parenthesized (comparison op cast column vs)) =
      arrayValues cast (vs.map freedValue) := by
  have hfreed : freed (comparison op cast column vs) =
      comparison op cast column (vs.map freedValue) := by
    rw [comparison, freed_append_of_not_mem (not_mem_comparison_lead hcolumn hop (by simp)),
      freed_arrayOperand hcast]
    rfl
  have hplain : Balanced [' ', op] := by
    simp only [List.mem_cons, List.not_mem_nil, or_false] at hop
    rcases hop with rfl | rfl | rfl <;> exact .of_all (by decide)
  have hbalanced : Balanced (comparison op cast column (vs.map freedValue)) :=
    (hcolumn.balanced.append hplain).append (balanced_arrayOperand hcast _)
  have hlead {c : Char} (hc : c ∈ ['(', '=', '\\']) : c ∉ trimStart (column ++ [' ', op]) :=
    fun hmem => not_mem_comparison_lead hcolumn hop hc ((List.dropWhile_suffix _).subset hmem)
  rw [clauseValues, condition_parenthesized (hfreed ▸ hbalanced), hfreed, comparison,
    trim_append_arrayOperand, stripOuterParens_append_arrayOperand (hlead (by simp)),
    valueSet?_append_arrayOperand (hlead (by simp))]
  rfl

include hcast hcolumn in
theorem clauseValues_disjunction_containment (vs : List (List Char)) (p : List Char) :
    clauseValues column (disjunction (Limit.containment.text cast column vs) p) =
      (foundValues? (disjunction (Limit.containment.text cast column vs) p)).getD
        (arrayValues cast (vs.map freedValue)) := by
  rw [clauseValues, foundValues?, condition_disjunction hcast hcolumn,
    valueSet?_disjunction_containment hcast hcolumn]
  cases anyArray? _ <;> rfl

include hcast hcolumn in
theorem clauseValues_disjunction_membership (p : List Char) :
    clauseValues column (disjunction (Limit.membership.text cast column vs) p) =
      (foundValues? (disjunction (Limit.membership.text cast column vs) p)).getD [] := by
  rw [clauseValues, foundValues?, condition_disjunction hcast hcolumn,
    valueSet?_disjunction_membership hcast hcolumn]

theorem clauseValues_negation (s : List Char) :
    clauseValues column (negation s) = (foundValues? (negation s)).getD [] := by
  rw [clauseValues, foundValues?, condition_negation, valueSet?_negation]

end Clauses

/-- A clause with a limit as one alternative and any predicate as the other. -/
def Limit.orClause (l : Limit) (cast column : String) (vs : List String) (p : String) : String :=
  String.ofList
    (disjunction (l.text cast.toList column.toList (vs.map String.toList)) p.toList)

/-- A clause that negates a limit. -/
def Limit.notClause (l : Limit) (cast column : String) (vs : List String) : String :=
  String.ofList (negation (l.text cast.toList column.toList (vs.map String.toList)))

/-- A comparison with an array by an operator that is more than an equals sign, bare and in
parentheses. -/
def comparisonClauses (op : Char) (cast column : String) (vs : List String) : List String :=
  let bare := comparison op cast.toList column.toList (vs.map String.toList)
  [String.ofList bare, String.ofList (parenthesized bare)]

section Weakened

variable {cast column : String} {vs : List String} (hcast : IsCast cast.toList)
  (hcolumn : IsName column.toList)

theorem forall_mem_toList_empty_iff (vs : List String) :
    (∀ v ∈ vs.map String.toList, v = [] ∨ v = ['\\']) ↔ ∀ v ∈ vs, v = "" ∨ v = "\\" := by
  have hslash (v : String) : v.toList = ['\\'] ↔ v = "\\" := by
    rw [← String.toList_inj]
    rfl
  simp [hslash]

include hcast hcolumn in
/-- Clauses that weaken a membership list, or negate a containment test, claim no values if
neither the values nor the predicate hold an equals sign. -/
theorem enumValues_weakened_eq_nil {p : String} (hp : '=' ∉ p.toList)
    (hvs : ∀ v ∈ vs, '=' ∉ v.toList) :
    ∀ clause ∈ [Limit.membership.orClause cast column vs p,
        Limit.membership.notClause cast column vs, Limit.containment.notClause cast column vs],
      enumValues column [clause] = [] := by
  have hlimit (l : Limit) (hl : '=' ∉ l.lead) :
      '=' ∉ l.text cast.toList column.toList (vs.map String.toList) := by
    have hclose : '=' ∉ l.close := by cases l <;> decide
    have hlist : '=' ∉ literalList cast.toList (vs.map String.toList) :=
      not_mem_literalList (hcast.not_mem (by decide) (by decide)) (by decide) (by simpa using hvs)
    simp only [Limit.text, List.mem_append, not_or]
    exact ⟨⟨⟨hcolumn.not_mem (by simp), hl⟩, hlist⟩, hclose⟩
  have hnegation (l : Limit) (hl : '=' ∉ l.lead) :
      '=' ∉ negation (l.text cast.toList column.toList (vs.map String.toList)) := by
    simpa [negation, parenthesized] using hlimit l hl
  intro clause hclause
  simp only [List.mem_cons, List.not_mem_nil, or_false] at hclause
  rcases hclause with rfl | rfl | rfl
  · have hdisjunction : '=' ∉ disjunction
        (Limit.membership.text cast.toList column.toList (vs.map String.toList)) p.toList := by
      simpa [disjunction, parenthesized] using ⟨hlimit .membership (by decide), hp⟩
    rw [Limit.orClause, enumValues_singleton_eq_iff,
      clauseValues_disjunction_membership hcast hcolumn, foundValues?_eq_none hdisjunction]
    rfl
  · rw [Limit.notClause, enumValues_singleton_eq_iff, clauseValues_negation,
      foundValues?_eq_none (hnegation .membership (by decide))]
    rfl
  · rw [Limit.notClause, enumValues_singleton_eq_iff, clauseValues_negation,
      foundValues?_eq_none (hnegation .containment (by decide))]
    rfl

include hcast hcolumn in
/-- A weakened limit claims values: a comparison with an array whatever stands around it, a
containment test under an alternative, and else only what a comparison found elsewhere lists. -/
theorem enumValues_weakened_eq_nil_iff (vs : List String) (p : String) :
    ((enumValues column [Limit.anyElement.orClause cast column vs p] = [] ↔
        ∀ v ∈ vs, v = "" ∨ v = "\\") ∧
      (enumValues column [Limit.anyElement.notClause cast column vs] = [] ↔
        ∀ v ∈ vs, v = "" ∨ v = "\\") ∧
      ∀ op ∈ ['>', '<', '!'], ∀ clause ∈ comparisonClauses op cast column vs,
        (enumValues column [clause] = [] ↔ ∀ v ∈ vs, v = "" ∨ v = "\\")) ∧
    (enumValues column [Limit.containment.orClause cast column vs p] = [] ↔
      match foundValues? (Limit.containment.orClause cast column vs p).toList with
      | some found => found = []
      | none => ∀ v ∈ vs, v = "" ∨ v = "\\") ∧
    ∀ clause ∈ [Limit.membership.orClause cast column vs p,
        Limit.membership.notClause cast column vs, Limit.containment.notClause cast column vs],
      (enumValues column [clause] = [] ↔ (foundValues? clause.toList).getD [] = []) := by
  have hnone (clause : List Char) :
      enumValues column [String.ofList clause] = [] ↔ clauseValues column.toList clause = [] := by
    exact enumValues_singleton_eq_iff.trans (by rw [List.map_nil])
  have hempty := (arrayValues_freed_eq_nil_iff hcast).trans
    (forall_mem_toList_empty_iff vs)
  refine ⟨⟨?_, ?_, ?_⟩, ?_, ?_⟩
  · rw [Limit.orClause, hnone, clauseValues_disjunction_anyElement hcast hcolumn, hempty]
  · rw [Limit.notClause, hnone, clauseValues_negation_anyElement hcast hcolumn, hempty]
  · intro op hop clause hclause
    rw [comparisonClauses, List.mem_pair] at hclause
    rcases hclause with rfl | rfl
    · rw [hnone, clauseValues_comparison hcast hcolumn _ hop, hempty]
    · rw [hnone, clauseValues_parenthesized_comparison hcast hcolumn _ hop, hempty]
  · rw [Limit.orClause, hnone, clauseValues_disjunction_containment hcast hcolumn,
      String.toList_ofList]
    cases foundValues? _ with
    | some found => rfl
    | none => exact hempty
  · intro clause hclause
    simp only [List.mem_cons, List.not_mem_nil, or_false] at hclause
    rcases hclause with rfl | rfl | rfl
    · rw [Limit.orClause, hnone, clauseValues_disjunction_membership hcast hcolumn,
        String.toList_ofList]
    · rw [Limit.notClause, hnone, clauseValues_negation, String.toList_ofList]
    · rw [Limit.notClause, hnone, clauseValues_negation, String.toList_ofList]

end Weakened

theorem enumValues_weakened_single :
    enumValues "c" ["(c IN ('a'::text)) OR (d > 1)"] = [] ∧
      enumValues "c" ["(c = ANY (ARRAY['a'::text])) OR (d > 1)"] ≠ [] := by
  have hcolumn : IsName "c".toList := isName_of_ascii (by decide) (by decide)
  have hweakened := enumValues_weakened_eq_nil_iff isCast_text hcolumn ["a"] "d > 1"
  refine ⟨(hweakened.2.2 _ List.mem_cons_self).2 ?_, mt hweakened.1.1.1 (by decide)⟩
  rw [foundValues?_eq_none (by decide)]
  rfl

/-- A negated comparison, an alternative and another operator leave the values readable. -/
theorem enumValues_weakened_readable :
    enumValues "c" ["NOT (c = ANY (ARRAY['a'::text]))"] ≠ [] ∧
      enumValues "c" ["(c <@ ARRAY['a'::text]) OR (d > 1)"] ≠ [] ∧
      enumValues "c" ["c >= ANY (ARRAY['a'::text])"] ≠ [] := by
  have hcolumn : IsName "c".toList := isName_of_ascii (by decide) (by decide)
  have hvalues : arrayValues "::text".toList (["a".toList].map freedValue) ≠ [] := by
    rw [ne_eq, arrayValues_freed_eq_nil_iff isCast_text]
    decide
  refine ⟨?_, ?_, ?_⟩
  · intro h
    rw [← clauseValues_negation_anyElement isCast_text hcolumn] at hvalues
    exact hvalues (enumValues_singleton_eq_iff.1 h)
  · intro h
    have hread := clauseValues_disjunction_containment isCast_text hcolumn ["a".toList]
      "d > 1".toList
    rw [foundValues?_eq_none (by decide), Option.getD_none] at hread
    exact hvalues (hread.symm.trans (enumValues_singleton_eq_iff.1 h))
  · intro h
    have hread := clauseValues_comparison isCast_text hcolumn ["a".toList]
      (List.mem_cons_self : '>' ∈ ['>', '<', '!'])
    exact hvalues (hread.symm.trans (enumValues_singleton_eq_iff.1 h))

end ZodCatalog.Check
