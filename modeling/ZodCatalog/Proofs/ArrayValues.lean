import ZodCatalog.Proofs.ClauseForms

/-! The value sets of the three forms that list their values. A membership list gives all of its
values. An array gives them exactly if none holds the bracket that ends it and, in a containment
test, none holds the head of another comparison. -/

namespace ZodCatalog.Check
open Text

section Counting

variable {c : Char} {cast : List Char}

theorem count_doubled (hc : c ≠ '\'') (v : List Char) : (doubled v).count c = v.count c := by
  induction v with
  | nil => rfl
  | cons d v ih =>
    by_cases hd : d = '\''
    · subst hd
      simp [hc.symm, ih]
    · rw [doubled_cons hd, List.count_cons, List.count_cons, ih]

/-- A list of literals holds a character as often as its values do, punctuation apart. -/
theorem count_literalList (hc : c ∉ cast) (hpunct : c ∉ ['\'', ',', ' '])
    (vs : List (List Char)) : (literalList cast vs).count c = vs.flatten.count c := by
  simp only [List.mem_cons, List.not_mem_nil, or_false, not_or] at hpunct
  have hitem (v : List Char) : (quoteLiteral v ++ cast).count c = v.count c := by
    have hquote : ['\''].count c = 0 := List.count_eq_zero.2 (by simp [hpunct])
    have htext : quoteLiteral v = ['\''] ++ doubled v ++ ['\''] := rfl
    rw [List.count_append, List.count_eq_zero.2 hc, htext, List.count_append, List.count_append,
      hquote, count_doubled hpunct.1, Nat.zero_add, Nat.add_zero]
  have hsep : (", ".toList).count c = 0 := List.count_eq_zero.2 (by simp [hpunct])
  induction vs with
  | nil => rfl
  | cons v vs ih =>
    rw [List.flatten_cons, List.count_append, ← ih]
    cases vs with
    | nil => rw [literalList_singleton, hitem]; rfl
    | cons w vs =>
      rw [literalList_cons_cons, List.count_append, List.count_append, hitem, hsep, Nat.add_zero]

theorem not_mem_literalList (hc : c ∉ cast) (hpunct : c ∉ ['\'', ',', ' '])
    {vs : List (List Char)} (h : ∀ v ∈ vs, c ∉ v) : c ∉ literalList cast vs := by
  rw [← List.count_eq_zero, count_literalList hc hpunct, List.count_eq_zero]
  intro hmem
  obtain ⟨v, hv, hcv⟩ := List.mem_flatten.1 hmem
  exact h v hv hcv

end Counting

section ValueSets

variable {cast column : List Char} {vs : List (List Char)}

/-- A limit that has no equals sign of its own opens an array exactly in its values. -/
theorem opensArray_limit (hcast : IsCast cast) (hcolumn : IsName column) {l : Limit}
    (hl : '=' ∉ l.lead) : opensArray (l.text cast column vs) = vs.any opensArray := by
  have hclose : opensArray l.close = false := by cases l <;> rfl
  rw [Limit.text, List.append_assoc, List.append_assoc,
    opensArray_append_of_not_mem (hcolumn.not_mem (by simp)), opensArray_append_of_not_mem hl,
    opensArray_literalList hcast, hclose, Bool.or_false]

/-- A list that is the whole operand gives its values, unless an array is found in the text. -/
theorem valueSet?_list (hcolumn : IsName column) {s : List Char} (hs : Balanced s)
    (hopens : opensArray (column ++ " IN (".toList ++ s ++ [')']) = false) :
    valueSet? column (column ++ " IN (".toList ++ s ++ [')']) = some (literalValues s) := by
  rw [valueSet?, anyArray?_eq_none hopens, membership?_list hcolumn hs []]
  rfl

theorem valueSet?_membership (hcast : IsCast cast) (hcolumn : IsName column)
    (hvs : ∀ v ∈ vs, opensArray v = false) :
    valueSet? column (Limit.membership.text cast column vs) =
      some (vs.filter fun v => !v.isEmpty) := by
  have hopens : opensArray (Limit.membership.text cast column vs) = false := by
    rw [opensArray_limit hcast hcolumn (by decide), List.any_eq_false.2 (by simpa using hvs)]
  have hlist := valueSet?_list hcolumn (balanced_literalList hcast vs) hopens
  rwa [literalValues_literalList hcast] at hlist

/-- The values read from an array, which ends at its first bracket. -/
def arrayValues (cast : List Char) (vs : List (List Char)) : List (List Char) :=
  literalValues ((literalList cast vs).takeWhile (· != ']'))

theorem takeWhile_bracket (s r : List Char) :
    (s ++ ']' :: r).takeWhile (· != ']') = s.takeWhile (· != ']') := by
  induction s with
  | nil => rfl
  | cons c s ih =>
    rw [List.cons_append, List.takeWhile_cons, List.takeWhile_cons, ih]

theorem arrayValues_of_not_mem (hcast : IsCast cast) (hvs : ∀ v ∈ vs, ']' ∉ v) :
    arrayValues cast vs = vs.filter fun v => !v.isEmpty := by
  have hmem : ']' ∉ literalList cast vs :=
    not_mem_literalList (hcast.not_mem (by decide) (by decide)) (by decide) hvs
  have hall : (literalList cast vs).takeWhile (· != ']') = literalList cast vs := by
    rw [List.takeWhile_eq_self_iff]
    intro c hc
    have hne : c ≠ ']' := fun e => hmem (e ▸ hc)
    simpa using hne
  rw [arrayValues, hall, literalValues_literalList hcast]

/-- No value that is read from an array holds a bracket. -/
theorem not_mem_arrayValues {v : List Char} (h : v ∈ arrayValues cast vs) : ']' ∉ v := by
  intro hmem
  have htext := (literalValues_flatten_sublist _).subset (List.mem_flatten.2 ⟨v, h, hmem⟩)
  simpa using List.mem_takeWhile_imp htext

theorem filter_nonempty_eq_self (hvs : ∀ v ∈ vs, v ≠ []) :
    (vs.filter fun v => !v.isEmpty) = vs :=
  List.filter_eq_self.2 fun v hv => by simpa using hvs v hv

theorem arrayValues_eq_self_iff (hcast : IsCast cast) (hvs : ∀ v ∈ vs, v ≠ []) :
    arrayValues cast vs = vs ↔ ∀ v ∈ vs, ']' ∉ v := by
  constructor
  · intro h v hv
    rw [← h] at hv
    exact not_mem_arrayValues hv
  · intro h
    rw [arrayValues_of_not_mem hcast h, filter_nonempty_eq_self hvs]

/-- Where the values of a torn literal begin, something is read. -/
theorem literalValue?_torn (v : List Char) : literalValue? ('\'' :: doubled v) ≠ none := by
  have htrim (w : List Char) : trim ('\'' :: doubled w) = '\'' :: doubled (trimEnd w) := by
    rw [trim_cons (by decide), trimEnd_doubled]
  have hcut (w : List Char) : withoutCast false ('\'' :: doubled w) = '\'' :: doubled w := by
    simpa [withoutCast] using withoutCast_doubled w []
  have hstrip (w : List Char) : stripParenEnds ('\'' :: doubled w) = '\'' :: doubled w :=
    stripParenEnds_of_head (by decide) _
  have hvalue (w : List Char) : unquote ('\'' :: doubled w) ≠ [] := by
    -- Quotes inside are doubled, so that a quote at the end is not alone behind the first one.
    have hinner : isEnclosedBy '\'' ('\'' :: doubled w) = true →
        inner ('\'' :: doubled w) ≠ [] := by
      intro henclosed hnil
      have hlast : (doubled w).dropLast = [] := hnil
      rcases w with _ | ⟨c, w⟩
      · simp [isEnclosedBy] at henclosed
      · by_cases hc : c = '\''
        · subst hc
          simp at hlast
        · rw [doubled_cons hc] at hlast
          cases hw : doubled w with
          | nil => simp [isEnclosedBy, doubled_cons hc, hw, hc] at henclosed
          | cons d r => simp [hw] at hlast
    unfold unquote
    split
    · rename_i henclosed
      exact replacePair_ne_nil (by simp) (hinner henclosed)
    · rw [if_neg (by simp [isEnclosedBy])]
      simp
  rw [literalValue?, htrim, hstrip, hcut, htrim, hstrip]
  simp [hvalue]

/-- A value without bracket comes back from the array it is written in, if there is any of it. -/
theorem arrayValues_cons_cons (hcast : IsCast cast) {v : List Char} (hv : ']' ∉ v)
    (w : List Char) (vs : List (List Char)) :
    arrayValues cast (v :: w :: vs) =
      ([v].filter fun u => !u.isEmpty) ++ arrayValues cast (w :: vs) := by
  have hitem : ∀ c ∈ literalList cast [v] ++ ", ".toList, (c != ']') = true := by
    have hmem : ']' ∉ literalList cast [v] :=
      not_mem_literalList (hcast.not_mem (by decide) (by decide)) (by decide) (by simpa using hv)
    intro c hc
    have hne : c ≠ ']' := by
      rintro rfl
      rcases List.mem_append.1 hc with hc | hc
      · exact hmem hc
      · exact absurd hc (by decide)
    simpa using hne
  rw [arrayValues, literalList_cons_cons, ← literalList_singleton,
    List.takeWhile_append_of_pos hitem, literalList_singleton, literalValues_literal_append hcast]
  rfl

theorem arrayValues_torn {v : List Char} (hv : ']' ∈ v) (vs : List (List Char)) :
    arrayValues cast (v :: vs) ≠ [] := by
  obtain ⟨a, b, rfl, ha⟩ := List.eq_append_cons_of_mem hv
  -- The array ends inside the literal, whose second half has no part in what is read.
  obtain ⟨r, hr⟩ : ∃ r, literalList cast ((a ++ ']' :: b) :: vs) =
      ('\'' :: doubled a) ++ ']' :: r := by
    have hbracket : doubled (']' :: b) = ']' :: doubled b := doubled_cons (by decide) b
    cases vs with
    | nil =>
      refine ⟨doubled b ++ ['\''] ++ cast, ?_⟩
      rw [literalList_singleton, quoteLiteral_eq, doubled_append, hbracket]
      simp
    | cons w vs =>
      refine ⟨doubled b ++ ['\''] ++ cast ++ ", ".toList ++ literalList cast (w :: vs), ?_⟩
      rw [literalList_cons_cons, quoteLiteral_eq, doubled_append, hbracket]
      simp
  have htorn : ('\'' :: doubled a).takeWhile (· != ']') = '\'' :: doubled a := by
    rw [List.takeWhile_eq_self_iff]
    intro c hc
    have hne : c ≠ ']' := by
      rintro rfl
      rcases List.mem_cons.1 hc with hc | hc
      · exact absurd hc (by decide)
      · exact ha (mem_doubled.1 hc)
    simpa using hne
  have hpieces : commaPieces .start ('\'' :: doubled a) = ['\'' :: doubled a] := by
    have h := passesInside_commaPieces.doubled 0 a []
    rw [List.append_nil] at h
    rw [passesInside_commaPieces.step _ _ _ (.inl rfl), Nesting.start, Nesting.next_quote,
      Bool.not_false, h]
    have hpush := pushText_cons_piece (doubled a) [] []
    rw [List.append_nil] at hpush
    exact congrArg (pushHead '\'') hpush
  rw [arrayValues, hr, takeWhile_bracket, htorn, literalValues, hpieces]
  cases hvalue : literalValue? ('\'' :: doubled a) with
  | none => exact absurd hvalue (literalValue?_torn a)
  | some w => simp [hvalue]

/-- Something is read from an array unless all of its values are empty. -/
theorem arrayValues_eq_nil_iff (hcast : IsCast cast) :
    arrayValues cast vs = [] ↔ ∀ v ∈ vs, v = [] := by
  constructor
  · intro h
    induction vs with
    | nil => simp
    | cons v vs ih =>
      -- Values come back up to the first with a bracket, and something is read of that one.
      by_cases hv : ']' ∈ v
      · exact absurd h (arrayValues_torn hv vs)
      cases vs with
      | nil =>
        rw [arrayValues_of_not_mem hcast (by simpa using hv)] at h
        simpa using h
      | cons w vs =>
        rw [arrayValues_cons_cons hcast hv, List.append_eq_nil_iff] at h
        have hnil : v = [] := by simpa using h.1
        exact List.forall_mem_cons.2 ⟨hnil, ih h.2⟩
  · intro h
    have hmem : ∀ v ∈ vs, ']' ∉ v := fun v hv => h v hv ▸ List.not_mem_nil
    rw [arrayValues_of_not_mem hcast hmem, List.filter_eq_nil_iff]
    exact fun v hv => by simp [h v hv]

/-- The first comparison with an array decides, also when more than a column stands before it. -/
theorem valueSet?_comparison {s : List Char} (hs : '=' ∉ s) (r : List Char) :
    valueSet? column (s ++ (arrayOperand cast vs ++ r)) = some (arrayValues cast vs) := by
  have hassoc (u v : List Char) : s ++ (u ++ (v ++ [']', ')']) ++ r) =
      s ++ u ++ (v ++ ']' :: ')' :: r) := by simp
  have htext : s ++ (arrayOperand cast vs ++ r) =
      s ++ "= ANY (ARRAY[".toList ++ (literalList cast vs ++ ']' :: ')' :: r) := hassoc _ _
  rw [htext, valueSet?, anyArray?_comparison hs (by simp), takeWhile_bracket]
  rfl

theorem valueSet?_append_arrayOperand {s : List Char} (hs : '=' ∉ s) :
    valueSet? column (s ++ arrayOperand cast vs) = some (arrayValues cast vs) := by
  have h : valueSet? column (s ++ (arrayOperand cast vs ++ [])) = some (arrayValues cast vs) :=
    valueSet?_comparison hs []
  rw [List.append_nil] at h
  exact h

theorem valueSet?_anyElement (hcolumn : IsName column) :
    valueSet? column (Limit.anyElement.text cast column vs) = some (arrayValues cast vs) := by
  have hsign : '=' ∉ column ++ [' '] := by simpa using hcolumn.not_mem (c := '=') (by simp)
  rw [anyElement_text, List.append_cons, valueSet?_append_arrayOperand hsign]

theorem valueSet?_containment (hcast : IsCast cast) (hcolumn : IsName column)
    (hvs : ∀ v ∈ vs, opensArray v = false) :
    valueSet? column (Limit.containment.text cast column vs) = some (arrayValues cast vs) := by
  have hopens : opensArray (Limit.containment.text cast column vs) = false := by
    rw [opensArray_limit hcast hcolumn (by decide), List.any_eq_false.2 (by simpa using hvs)]
  have hlist : containment? column (Limit.containment.text cast column vs) =
      some (arrayValues cast vs) := by
    rw [Limit.text, List.append_assoc]
    exact (containment?_array hcolumn (by simp [Limit.close])).trans
      (congrArg (fun s => some (literalValues s)) (takeWhile_bracket _ _))
  rw [valueSet?, anyArray?_eq_none hopens, hlist, containment_text,
    membership?_eq_none hcolumn (by decide) (by decide) (by decide),
    equalities?_name_eq_none hcolumn (by decide) (by decide) (by decide)]
  rfl

/-- A containment test in whose values another comparison starts is read from there, so that the
opening brackets of its values do not all come back. -/
theorem valueSet?_containment_ne (hcast : IsCast cast) (hcolumn : IsName column)
    (hvs : vs.any opensArray = true) :
    valueSet? column (Limit.containment.text cast column vs) ≠ some vs := by
  have hopens : opensArray (literalList cast vs) = true := by
    have h := opensArray_literalList hcast vs []
    rw [List.append_nil, hvs] at h
    exact h
  obtain ⟨body, hbody⟩ := Option.isSome_iff_exists.1 (isSome_anyArray? (w := []) hopens)
  have harray : anyArray? (Limit.containment.text cast column vs) = some body := by
    rw [Limit.text, List.append_assoc, List.append_assoc,
      anyArray?_append_of_not_mem (hcolumn.not_mem (by simp)),
      anyArray?_append_of_not_mem (by decide)]
    exact hbody
  rw [valueSet?, harray]
  intro h
  have hvalues : literalValues body = vs := Option.some.inj h
  have hlt : vs.flatten.count '[' < (literalList cast vs ++ [']']).count '[' := calc
    vs.flatten.count '[' = (literalValues body).flatten.count '[' := by rw [hvalues]
    _ ≤ body.count '[' := (literalValues_flatten_sublist body).count_le _
    _ < ('[' :: body).count '[' := by rw [List.count_cons_self]; exact Nat.lt_succ_self _
    _ ≤ (literalList cast vs ++ [']']).count '[' := (anyArray?_eq_some hbody).2.count_le _
  rw [List.count_append,
    count_literalList (hcast.not_mem (by decide) (by decide)) (by decide)] at hlt
  exact absurd hlt (Nat.lt_irrefl _)

theorem valueSet?_containment_eq_some_iff (hcast : IsCast cast) (hcolumn : IsName column)
    (hvs : ∀ v ∈ vs, v ≠ []) :
    valueSet? column (Limit.containment.text cast column vs) = some vs ↔
      ∀ v ∈ vs, ']' ∉ v ∧ opensArray v = false := by
  constructor
  · intro h v hv
    have hnone : ∀ v ∈ vs, opensArray v = false := by
      by_contra hopen
      push Not at hopen
      obtain ⟨w, hw, hwopen⟩ := hopen
      have hany : vs.any opensArray = true := List.any_eq_true.2 ⟨w, hw, by simpa using hwopen⟩
      exact valueSet?_containment_ne hcast hcolumn hany h
    rw [valueSet?_containment hcast hcolumn hnone] at h
    exact ⟨(arrayValues_eq_self_iff hcast hvs).1 (Option.some.inj h) v hv, hnone v hv⟩
  · intro h
    rw [valueSet?_containment hcast hcolumn fun v hv => (h v hv).2,
      (arrayValues_eq_self_iff hcast hvs).2 fun v hv => (h v hv).1]

end ValueSets

end ZodCatalog.Check
