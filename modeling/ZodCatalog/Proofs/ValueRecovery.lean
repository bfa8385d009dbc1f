import ZodCatalog.Proofs.ArrayValues
import ZodCatalog.Proofs.EqualityChains

/-! Values come back from the clauses they are written in. Membership lists and chains of
equalities give back all values without backslashes and equals signs, arrays only those without
closing brackets. -/

namespace ZodCatalog.Check
open Text

/-- The clause of a limit, its condition in parentheses. -/
def Limit.clause (l : Limit) (cast column : String) (vs : List String) : String :=
  String.ofList (parenthesized (l.text cast.toList column.toList (vs.map String.toList)))

/-- The clause of a chain of equalities. -/
def chainClause (column : String) (vs : List String) : String :=
  String.ofList (parenthesized (equalityChain column.toList (vs.map String.toList)))

/-- The values of one clause as texts. -/
theorem enumValues_singleton_eq_iff {column : String} {clause : List Char} {vs : List String} :
    enumValues column [String.ofList clause] = vs ↔
      clauseValues column.toList clause = vs.map String.toList := by
  have hvalues : enumValues column [String.ofList clause] =
      (clauseValues column.toList clause).map String.ofList := by
    simp [enumValues]
  rw [hvalues]
  constructor
  · rintro rfl
    simp [Function.comp_def]
  · intro h
    rw [h]
    simp [Function.comp_def]

section Clauses

variable {cast column : List Char} {vs : List (List Char)}

theorem clauseValues_membership (hcast : IsCast cast) (hcolumn : IsName column)
    (hvs : ∀ v ∈ vs, v ≠ [] ∧ '\\' ∉ v ∧ opensArray v = false) :
    clauseValues column (parenthesized (Limit.membership.text cast column vs)) = vs := by
  rw [clauseValues, condition_limit hcast hcolumn, map_freedValue fun v hv => (hvs v hv).2.1,
    valueSet?_membership hcast hcolumn fun v hv => (hvs v hv).2.2]
  exact filter_nonempty_eq_self fun v hv => (hvs v hv).1

theorem clauseValues_equalityChain (hcolumn : IsName column) (hlen : 2 ≤ vs.length)
    (hvs : ∀ v ∈ vs, v ≠ [] ∧ '\\' ∉ v ∧ opensArray v = false) :
    clauseValues column (parenthesized (equalityChain column vs)) = vs := by
  rw [clauseValues, condition_equalityChain hcolumn hlen,
    map_freedValue fun v hv => (hvs v hv).2.1,
    valueSet?_equalityChain hcolumn hlen fun v hv => ⟨(hvs v hv).1, (hvs v hv).2.2⟩]
  rfl

theorem clauseValues_anyElement_eq_iff (hcast : IsCast cast) (hcolumn : IsName column)
    (hvs : ∀ v ∈ vs, v ≠ [] ∧ '\\' ∉ v) :
    clauseValues column (parenthesized (Limit.anyElement.text cast column vs)) = vs ↔
      ∀ v ∈ vs, ']' ∉ v := by
  rw [clauseValues, condition_limit hcast hcolumn, map_freedValue fun v hv => (hvs v hv).2,
    valueSet?_anyElement hcolumn]
  exact arrayValues_eq_self_iff hcast fun v hv => (hvs v hv).1

theorem clauseValues_containment_eq_iff (hcast : IsCast cast) (hcolumn : IsName column)
    (hvs : ∀ v ∈ vs, v ≠ [] ∧ '\\' ∉ v) :
    clauseValues column (parenthesized (Limit.containment.text cast column vs)) = vs ↔
      ∀ v ∈ vs, ']' ∉ v ∧ opensArray v = false := by
  have hset := valueSet?_containment_eq_some_iff hcast hcolumn fun v hv => (hvs v hv).1
  rw [clauseValues, condition_limit hcast hcolumn, map_freedValue fun v hv => (hvs v hv).2, ← hset]
  cases h : valueSet? column (Limit.containment.text cast column vs) with
  | none =>
    -- Without a value set there are no values, and an empty list always has one.
    refine ⟨?_, fun hsome => absurd hsome (by simp)⟩
    rintro rfl
    exact absurd (h.symm.trans (hset.2 (by simp))) (by simp)
  | some ws => simp

end Clauses

/-- Membership lists and chains of equalities give back what is written in them, whatever commas,
parentheses, separators, line breaks and quotes it holds. -/
theorem enumValues_membership_chain {column : String} (vs : List String)
    (hcolumn : IsName column.toList) (hlen : 2 ≤ vs.length)
    (hvs : ∀ v ∈ vs, v ≠ "" ∧ '\\' ∉ v.toList ∧ '=' ∉ v.toList) :
    enumValues column [Limit.membership.clause "" column vs] = vs ∧
      enumValues column [chainClause column vs] = vs := by
  have hlists : ∀ v ∈ vs.map String.toList, v ≠ [] ∧ '\\' ∉ v ∧ opensArray v = false := by
    intro v hv
    obtain ⟨w, hw, rfl⟩ := List.mem_map.1 hv
    obtain ⟨hne, hslash, hsign⟩ := hvs w hw
    exact ⟨by simpa using hne, hslash, opensArray_of_not_mem hsign⟩
  constructor
  · exact enumValues_singleton_eq_iff.2 (clauseValues_membership (.inl rfl) hcolumn hlists)
  · exact enumValues_singleton_eq_iff.2
      (clauseValues_equalityChain hcolumn (by simpa using hlen) hlists)

theorem enumValues_membership_chain_quoted :
    enumValues "kind$" ["(kind$ IN ('it''s, (a) OR b', 'x::y'))"] = ["it's, (a) OR b", "x::y"] ∧
      enumValues "kind$" ["((kind$ = 'it''s, (a) OR b'::text) OR (kind$ = 'x::y'::text))"] =
        ["it's, (a) OR b", "x::y"] :=
  enumValues_membership_chain ["it's, (a) OR b", "x::y"]
    (isName_of_ascii (by decide) (by decide)) (by decide) (by decide)

/-- An array of typed literals gives back its values exactly if none of them holds a closing
bracket; in a containment test none may hold the head of a comparison with an array either. -/
theorem enumValues_array_eq_iff {column : String} (vs : List String)
    (hcolumn : IsName column.toList) (hvs : ∀ v ∈ vs, v ≠ "" ∧ '\\' ∉ v.toList) :
    (enumValues column [Limit.anyElement.clause "::text" column vs] = vs ↔
      ∀ v ∈ vs, ']' ∉ v.toList) ∧
    (enumValues column [Limit.containment.clause "::text" column vs] = vs ↔
      ∀ v ∈ vs, ']' ∉ v.toList ∧ opensArray v.toList = false) := by
  have hlists : ∀ v ∈ vs.map String.toList, v ≠ [] ∧ '\\' ∉ v := by
    intro v hv
    obtain ⟨w, hw, rfl⟩ := List.mem_map.1 hv
    exact ⟨by simpa using (hvs w hw).1, (hvs w hw).2⟩
  rw [Limit.clause, Limit.clause, enumValues_singleton_eq_iff, enumValues_singleton_eq_iff,
    clauseValues_anyElement_eq_iff isCast_text hcolumn hlists,
    clauseValues_containment_eq_iff isCast_text hcolumn hlists]
  simp

theorem enumValues_array_nested :
    enumValues "tags" ["(tags = ANY (ARRAY['a[1'::text, 'it''s, (b'::text]))"] =
        ["a[1", "it's, (b"] ∧
      enumValues "tags" ["(tags <@ ARRAY['a[1'::text, 'it''s, (b'::text])"] =
        ["a[1", "it's, (b"] := by
  have hcolumn : IsName "tags".toList := isName_of_ascii (by decide) (by decide)
  have hvalues := enumValues_array_eq_iff ["a[1", "it's, (b"] hcolumn (by decide)
  exact ⟨hvalues.1.2 (by decide), hvalues.2.2 (by decide)⟩

/-- A closing bracket in a value ends the array, and a value that starts a comparison hides it. -/
theorem enumValues_array_torn :
    enumValues "c" ["(c = ANY (ARRAY['a]b'::text]))"] ≠ ["a]b"] ∧
      enumValues "c" ["(c <@ ARRAY['= any (array[x'::text])"] ≠ ["= any (array[x"] := by
  have hcolumn : IsName "c".toList := isName_of_ascii (by decide) (by decide)
  constructor
  · intro h
    have hread : clauseValues "c".toList (parenthesized
        (Limit.anyElement.text "::text".toList "c".toList ["a]b".toList])) = ["a]b".toList] :=
      enumValues_singleton_eq_iff.1 h
    exact absurd ((clauseValues_anyElement_eq_iff isCast_text hcolumn (by decide)).1 hread)
      (by decide)
  · intro h
    have hread : clauseValues "c".toList (parenthesized
        (Limit.containment.text "::text".toList "c".toList ["= any (array[x".toList])) =
          ["= any (array[x".toList] := enumValues_singleton_eq_iff.1 h
    exact absurd ((clauseValues_containment_eq_iff isCast_text hcolumn (by decide)).1 hread)
      (by decide)

end ZodCatalog.Check
