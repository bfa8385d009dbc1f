import ZodCatalog.Proofs.Alternations

/-! Chains of equalities. Each part of a chain is one alternative of its condition, whatever the
values hold, and gives its value back. -/

namespace ZodCatalog.Check
open Text

variable {column : List Char} (hcolumn : IsName column)

theorem equalityChain_eq_alternation (column : List Char) (vs : List (List Char)) :
    equalityChain column vs = alternation (vs.map (equality column)) := by
  rw [alternation, List.map_map]
  rfl

theorem equalityChain_singleton (v : List Char) :
    equalityChain column [v] = parenthesized (equality column v) := rfl

theorem equalityChain_cons_cons (v w : List Char) (vs : List (List Char)) :
    equalityChain column (v :: w :: vs) =
      parenthesized (equality column v) ++ " OR ".toList ++ equalityChain column (w :: vs) := rfl

include hcolumn in
theorem balanced_equality (v : List Char) : Balanced (equality column v) :=
  (hcolumn.balanced.append (.of_all (by decide))).append (.literal v (.of_all (by decide)))

include hcolumn in
theorem balanced_equalities (vs : List (List Char)) :
    ∀ d ∈ vs.map (equality column), Balanced d :=
  List.forall_mem_map.2 fun v _ => balanced_equality hcolumn v

include hcolumn in
theorem freed_equality (v : List Char) :
    freed (equality column v) = equality column (freedValue v) := by
  rw [equality, List.append_assoc, freed_append_of_not_mem (hcolumn.not_mem (by simp)),
    freed_append_of_not_mem (by decide), freed_quoteLiteral, equality, List.append_assoc]
  rfl

include hcolumn in
theorem freed_equalityChain (vs : List (List Char)) :
    freed (equalityChain column vs) = equalityChain column (vs.map freedValue) := by
  have hfreed : freed ∘ equality column = equality column ∘ freedValue :=
    funext (freed_equality hcolumn)
  rw [equalityChain_eq_alternation, equalityChain_eq_alternation, freed_alternation, List.map_map,
    List.map_map, hfreed]

include hcolumn in
theorem condition_equalityChain {vs : List (List Char)} (hlen : 2 ≤ vs.length) :
    condition (parenthesized (equalityChain column vs)) =
      equalityChain column (vs.map freedValue) := by
  have hfreed := freed_equalityChain hcolumn vs
  have hbalanced : Balanced (equalityChain column (vs.map freedValue)) := by
    rw [equalityChain_eq_alternation]
    exact balanced_alternation (balanced_equalities hcolumn _)
  rw [condition_parenthesized (hfreed ▸ hbalanced), hfreed, equalityChain_eq_alternation]
  match vs, hlen with
  | v :: w :: vs, _ => exact strip_alternation (balanced_equality hcolumn _) _ _

include hcolumn in
theorem strip_equality (v : List Char) :
    stripOuterParens (trim (equality column v)) = equality column v := by
  have htext : equality column v =
      column ++ ((" = ".toList ++ quoteLiteral v ++ "::tex".toList) ++ 't' :: []) := by
    simp [equality]
  have htrim : trim (equality column v) = equality column v := by
    rw [htext, hcolumn.trim (by decide)]
    rfl
  rw [htrim, equality, List.append_assoc, hcolumn.stripOuterParens]

include hcolumn in
theorem equality?_part (v : List Char) :
    equality? column (stripOuterParens (trim (equality column v))) =
      if v.isEmpty then none else some v := by
  rw [strip_equality hcolumn, equality, equality?_literal hcolumn,
    literalValue?_literal isCast_text]

include hcolumn in
/-- Every condition of a chain gives its value. -/
theorem mapM_equality? {vs : List (List Char)} (hvs : ∀ v ∈ vs, v ≠ []) :
    ((vs.map (equality column)).mapM fun d => equality? column (stripOuterParens (trim d))) =
      some vs := by
  induction vs with
  | nil => rfl
  | cons v vs ih =>
    rw [List.forall_mem_cons] at hvs
    rw [List.map_cons, List.mapM_cons, equality?_part hcolumn, List.isEmpty_eq_false_iff.2 hvs.1,
      ih hvs.2]
    rfl

include hcolumn in
theorem opensArray_equalityChain (vs : List (List Char)) :
    opensArray (equalityChain column vs) = vs.any opensArray := by
  have hgroup (v r : List Char) : opensArray (parenthesized (equality column v) ++ r) =
      (opensArray v || opensArray r) := by
    have htext : parenthesized (equality column v) ++ r =
        (['('] ++ column) ++
          (" = ".toList ++ '\'' :: (doubled v ++ '\'' :: ("::text)".toList ++ r))) := by
      simp [parenthesized, equality, quoteLiteral_eq]
    have hsign : '=' ∉ ['('] ++ column := by
      rw [List.mem_append, not_or]
      exact ⟨by decide, hcolumn.not_mem (by simp)⟩
    rw [htext, opensArray_append_of_not_mem hsign, opensArray_append_quote, opensArray_doubled,
      opensArray_append_of_not_mem (by decide)]
    rfl
  induction vs with
  | nil => rfl
  | cons v vs ih =>
    cases vs with
    | nil => simpa [equalityChain_singleton, opensArray] using hgroup v []
    | cons w vs =>
      rw [equalityChain_cons_cons, List.append_assoc, hgroup,
        opensArray_append_of_not_mem (by decide), ih]
      rfl

include hcolumn in
theorem valueSet?_equalityChain {vs : List (List Char)} (hlen : 2 ≤ vs.length)
    (hvs : ∀ v ∈ vs, v ≠ [] ∧ opensArray v = false) :
    valueSet? column (equalityChain column vs) = some vs := by
  have hopens : opensArray (equalityChain column vs) = false := by
    rw [opensArray_equalityChain hcolumn, List.any_eq_false]
    exact fun v hv => by simpa using (hvs v hv).2
  have hnone := anyArray?_eq_none hopens
  rw [equalityChain_eq_alternation] at hnone ⊢
  have hlength : 2 ≤ (vs.map (equality column)).length := by rwa [List.length_map]
  rw [valueSet?_alternation column hlength (balanced_equalities hcolumn vs) hnone,
    mapM_equality? hcolumn fun v hv => (hvs v hv).1]
  rfl

end ZodCatalog.Check
