import ZodCatalog.Proofs.ClauseReaders

/-! The forms in which a clause limits a column to listed values, and their conditions. Freeing
quotes of backslashes changes the values in a form and nothing else of it. -/

namespace ZodCatalog.Check
open Text

/-- The ways to limit a column to the values of a list. -/
inductive Limit
  | membership
  | anyElement
  | containment
deriving Repr, DecidableEq

namespace Limit

/-- The text between the column and the list. -/
def lead : Limit → List Char
  | membership => " IN (".toList
  | anyElement => " = ANY (ARRAY[".toList
  | containment => " <@ ARRAY[".toList

/-- The text behind the list. -/
def close : Limit → List Char
  | membership => ")".toList
  | anyElement => "])".toList
  | containment => "]".toList

/-- The condition that limits a column to values, written as literals with a cast. -/
def text (l : Limit) (cast column : List Char) (vs : List (List Char)) : List Char :=
  column ++ l.lead ++ literalList cast vs ++ l.close

end Limit

/-- A comparison with the elements of an array, from its equals sign on. -/
def arrayOperand (cast : List Char) (vs : List (List Char)) : List Char :=
  "= ANY (ARRAY[".toList ++ (literalList cast vs ++ "])".toList)

def disjunction (s t : List Char) : List Char :=
  parenthesized s ++ " OR ".toList ++ parenthesized t

def negation (s : List Char) : List Char := "NOT ".toList ++ parenthesized s

/-- A column compared with one value. -/
def equality (column v : List Char) : List Char :=
  column ++ " = ".toList ++ (quoteLiteral v ++ "::text".toList)

/-- A column compared with one value after the other. -/
def equalityChain (column : List Char) (vs : List (List Char)) : List Char :=
  joinWith " OR ".toList (vs.map fun v => parenthesized (equality column v))

/-- A text in which no backslash stands in front of a quote any more. -/
def freed (s : List Char) : List Char :=
  replacePair '\\' '"' ['"'] (replacePair '\\' '\'' ['\''] s)

/-- A value without backslashes in front of single quotes and at its end, where the quote of its
literal follows. -/
def freedQuotes : List Char → List Char
  | [] => []
  | [c] => if c = '\\' then [] else [c]
  | c :: d :: r =>
    if c = '\\' ∧ d = '\'' then '\'' :: freedQuotes r else c :: freedQuotes (d :: r)

/-- The value of a literal once its quotes are free. -/
def freedValue (v : List Char) : List Char := replacePair '\\' '"' ['"'] (freedQuotes v)

section Freeing

theorem replacePair_append_of_not_mem {first : Char} {s : List Char} (h : first ∉ s)
    (second : Char) (replacement r : List Char) :
    replacePair first second replacement (s ++ r) =
      s ++ replacePair first second replacement r := by
  induction s with
  | nil => rfl
  | cons c s ih =>
    have hc : c ≠ first := fun e => h (e ▸ List.mem_cons_self)
    rw [List.cons_append, replacePair_cons hc, ih fun hs => h (List.mem_cons_of_mem _ hs)]
    rfl

theorem replacePair_append_cons {first second d : Char} (h₁ : d ≠ first) (h₂ : d ≠ second)
    (replacement s r : List Char) :
    replacePair first second replacement (s ++ d :: r) =
      replacePair first second replacement s ++ d :: replacePair first second replacement r := by
  fun_induction replacePair first second replacement s with
  | case1 => exact replacePair_cons h₁ _ _ _
  | case2 c =>
    show replacePair first second replacement (c :: d :: r) = _
    rw [replacePair, if_neg (by simp [h₂]), replacePair_cons h₁]
    rfl
  | case3 c e s he ih =>
    rw [List.cons_append, List.cons_append, replacePair, if_pos he, ih, List.append_assoc]
  | case4 c e s he ih =>
    rw [List.cons_append, List.cons_append, replacePair, if_neg he, ← List.cons_append, ih]
    rfl

@[simp] theorem freed_nil : freed [] = [] := rfl

theorem freed_append_of_not_mem {s : List Char} (h : '\\' ∉ s) (r : List Char) :
    freed (s ++ r) = s ++ freed r := by
  rw [freed, replacePair_append_of_not_mem h, replacePair_append_of_not_mem h, ← freed]

theorem freed_eq_self {s : List Char} (h : '\\' ∉ s) : freed s = s := by
  have hs := freed_append_of_not_mem h []
  rwa [List.append_nil, freed_nil, List.append_nil] at hs

theorem freed_append_cons {d : Char} (hd : d ∉ ['\\', '\'', '"']) (s r : List Char) :
    freed (s ++ d :: r) = freed s ++ d :: freed r := by
  simp only [List.mem_cons, List.not_mem_nil, or_false, not_or] at hd
  rw [freed, replacePair_append_cons hd.1 hd.2.1, replacePair_append_cons hd.1 hd.2.2, ← freed,
    ← freed]

/-- A character that frees nothing is left as it is, in both its copies. -/
theorem replacePair_doubled_cons {second c d : Char} (h : ¬ (c = '\\' ∧ d = second))
    (s r : List Char) : replacePair '\\' second [second] (doubled (c :: d :: s) ++ r) =
      doubled [c] ++ replacePair '\\' second [second] (doubled (d :: s) ++ r) := by
  by_cases hcq : c = '\''
  · subst hcq
    rw [doubled_quote, List.cons_append, List.cons_append, replacePair_cons (by decide),
      replacePair_cons (by decide)]
    rfl
  · have hsingle : doubled [c] = [c] := doubled_cons hcq []
    rw [hsingle, doubled_cons hcq, List.cons_append]
    by_cases hcb : c = '\\'
    · have hd : d ≠ second := fun hd => h ⟨hcb, hd⟩
      -- What follows the backslash may be written twice, but the first copy is the character.
      obtain ⟨t, ht⟩ : ∃ t, doubled (d :: s) = d :: t := by
        by_cases hdq : d = '\''
        · exact ⟨'\'' :: doubled s, hdq ▸ doubled_quote s⟩
        · exact ⟨doubled s, doubled_cons hdq s⟩
      rw [ht, List.cons_append, replacePair, if_neg (by simp [hd])]
      rfl
    · exact replacePair_cons hcb _ _ _

theorem replacePair_quote_doubled (v r : List Char) :
    replacePair '\\' '\'' ['\''] (doubled v ++ '\'' :: r) =
      doubled (freedQuotes v) ++ '\'' :: replacePair '\\' '\'' ['\''] r := by
  have hq : ∀ t, replacePair '\\' '\'' ['\''] ('\'' :: t) =
      '\'' :: replacePair '\\' '\'' ['\''] t := replacePair_cons (by decide) _ _
  fun_induction freedQuotes v with
  | case1 => exact hq r
  | case2 => rfl
  | case3 c hc =>
    by_cases hcq : c = '\''
    · subst hcq
      simp only [doubled_quote, doubled_nil, List.cons_append, List.nil_append, hq]
    · rw [doubled_cons hcq, doubled_nil, List.cons_append, replacePair_cons hc, List.nil_append,
        hq]
      rfl
  | case4 c d s h ih =>
    -- The backslash takes the first copy of the quote along, the second one is left.
    obtain ⟨rfl, rfl⟩ := h
    rw [doubled_cons (by decide), doubled_quote, doubled_quote, List.cons_append,
      List.cons_append, List.cons_append, replacePair, if_pos (by decide), hq, ih]
    rfl
  | case5 c d s h ih =>
    rw [replacePair_doubled_cons h, ih, ← List.append_assoc, ← doubled_append]
    rfl

theorem replacePair_doubleQuote_doubled (v r : List Char) :
    replacePair '\\' '"' ['"'] (doubled v ++ '\'' :: r) =
      doubled (replacePair '\\' '"' ['"'] v) ++ '\'' :: replacePair '\\' '"' ['"'] r := by
  rw [replacePair_append_cons (by decide) (by decide)]
  congr 1
  fun_induction replacePair '\\' '"' ['"'] v with
  | case1 => rfl
  | case2 c =>
    by_cases hcq : c = '\''
    · subst hcq
      rfl
    · rw [doubled_cons hcq]
      rfl
  | case3 c d s h ih =>
    obtain ⟨rfl, rfl⟩ : c = '\\' ∧ d = '"' := by simpa using h
    rw [doubled_cons (by decide), doubled_cons (by decide), replacePair, if_pos (by decide), ih,
      doubled_append]
    rfl
  | case4 c d s h ih =>
    have hfree : ¬ (c = '\\' ∧ d = '"') := by simpa using h
    have hstep := replacePair_doubled_cons hfree s []
    rw [List.append_nil, List.append_nil, ih, ← doubled_append] at hstep
    exact hstep

theorem freed_quoteLiteral (v r : List Char) :
    freed (quoteLiteral v ++ r) = quoteLiteral (freedValue v) ++ freed r := by
  have htext (v r : List Char) : quoteLiteral v ++ r = '\'' :: (doubled v ++ '\'' :: r) := by
    simp [quoteLiteral_eq]
  rw [htext, htext, freed, replacePair_cons (by decide), replacePair_cons (by decide),
    replacePair_quote_doubled, replacePair_doubleQuote_doubled, ← freed, ← freedValue]

theorem settles_replacePair {second : Char} (n : Nesting) (s : List Char) :
    n.settles (replacePair '\\' second [second] s) = n.settles s := by
  have hslash (n : Nesting) (r : List Char) : n.settles ('\\' :: r) = n.settles r := by
    have hnext : n.next '\\' = n := by
      obtain ⟨d, q⟩ := n
      cases q <;> rfl
    simp [Nesting.settles, hnext]
  fun_induction replacePair '\\' second [second] s generalizing n with
  | case1 => rfl
  | case2 => rfl
  | case3 c d r h ih =>
    obtain ⟨rfl, rfl⟩ : c = '\\' ∧ d = second := by simpa using h
    rw [hslash, List.singleton_append, Nesting.settles, Nesting.settles, ih]
  | case4 c d r h ih =>
    rw [Nesting.settles, ih]
    rfl

/-- Freeing quotes only drops backslashes, and no parenthesis hangs on one. -/
theorem Balanced.freed {s : List Char} (hs : Balanced s) : Balanced (freed s) := by
  rw [balanced_iff_settles, Check.freed, settles_replacePair, settles_replacePair]
  exact balanced_iff_settles.1 hs

theorem freedValue_eq_self {v : List Char} (h : '\\' ∉ v) : freedValue v = v := by
  have hquotes : freedQuotes v = v := by
    fun_induction freedQuotes v with
    | case1 => rfl
    | case2 => simp at h
    | case3 => rfl
    | case4 c d s hcd ih => simp [hcd.1] at h
    | case5 c d s hcd ih => rw [ih fun hs => h (List.mem_cons_of_mem _ hs)]
  have happend := replacePair_append_of_not_mem h '"' ['"'] []
  rw [List.append_nil] at happend
  rw [freedValue, hquotes, happend]
  exact List.append_nil v

theorem map_freedValue {vs : List (List Char)} (h : ∀ v ∈ vs, '\\' ∉ v) :
    vs.map freedValue = vs := by
  rw [List.map_congr_left fun v hv => freedValue_eq_self (h v hv), List.map_id']

/-- Only the empty value and a lone backslash are empty once quotes are free. -/
theorem freedValue_eq_nil_iff {v : List Char} : freedValue v = [] ↔ v = [] ∨ v = ['\\'] := by
  constructor
  · intro h
    have hquotes : freedQuotes v = [] := by
      by_contra hne
      exact replacePair_ne_nil (by simp) hne h
    rcases v with _ | ⟨c, _ | ⟨d, r⟩⟩
    · exact .inl rfl
    · by_cases hc : c = '\\'
      · exact .inr (by rw [hc])
      · simp [freedQuotes, hc] at hquotes
    · rw [freedQuotes] at hquotes
      split at hquotes <;> contradiction
  · rintro (rfl | rfl) <;> rfl

theorem freed_literalList {cast : List Char} (hcast : IsCast cast) (vs : List (List Char))
    (r : List Char) :
    freed (literalList cast vs ++ r) = literalList cast (vs.map freedValue) ++ freed r := by
  have hb : '\\' ∉ cast := hcast.not_mem (by decide) (by decide)
  have hitem (v t : List Char) :
      freed (quoteLiteral v ++ cast ++ t) = quoteLiteral (freedValue v) ++ cast ++ freed t := by
    rw [List.append_assoc, freed_quoteLiteral, freed_append_of_not_mem hb, ← List.append_assoc]
  induction vs with
  | nil => rfl
  | cons v vs ih =>
    cases vs with
    | nil => exact hitem v r
    | cons w vs =>
      rw [literalList_cons_cons, List.append_assoc, List.append_assoc, hitem,
        freed_append_of_not_mem (by decide), ih]
      simp only [List.map_cons, literalList_cons_cons, List.append_assoc]

end Freeing

section Conditions

variable {cast column : List Char} (hcast : IsCast cast) (hcolumn : IsName column)

include hcast hcolumn in
theorem freed_limit (l : Limit) (vs : List (List Char)) (r : List Char) :
    freed (l.text cast column vs ++ r) = l.text cast column (vs.map freedValue) ++ freed r := by
  have hlead : '\\' ∉ l.lead := by cases l <;> decide
  have hclose : '\\' ∉ l.close := by cases l <;> decide
  simp only [Limit.text, List.append_assoc]
  rw [freed_append_of_not_mem (hcolumn.not_mem (by simp)), freed_append_of_not_mem hlead,
    freed_literalList hcast, freed_append_of_not_mem hclose]

include hcast hcolumn in
theorem freed_limit_text (l : Limit) (vs : List (List Char)) :
    freed (l.text cast column vs) = l.text cast column (vs.map freedValue) := by
  simpa using freed_limit hcast hcolumn l vs []

include hcolumn in
theorem IsName.balanced : Balanced column :=
  .of_plain fun c hc hmem => hcolumn.not_mem (forall_mem_of_all (by decide) c hmem) hc

theorem membership_text (cast column : List Char) (vs : List (List Char)) :
    Limit.membership.text cast column vs =
      column ++ ' ' :: 'I' :: ("N (".toList ++ (literalList cast vs ++ [')'])) := by
  rw [Limit.text, List.append_assoc, List.append_assoc]
  rfl

theorem containment_text (cast column : List Char) (vs : List (List Char)) :
    Limit.containment.text cast column vs =
      column ++ ' ' :: '<' :: ("@ ARRAY[".toList ++ (literalList cast vs ++ [']'])) := by
  rw [Limit.text, List.append_assoc, List.append_assoc]
  rfl

theorem anyElement_text (cast column : List Char) (vs : List (List Char)) :
    Limit.anyElement.text cast column vs = column ++ ' ' :: arrayOperand cast vs := by
  rw [Limit.text, List.append_assoc, List.append_assoc]
  rfl

include hcast in
theorem balanced_arrayOperand (vs : List (List Char)) : Balanced (arrayOperand cast vs) := by
  have hbracket : Balanced ("ARRAY[".toList ++ (literalList cast vs ++ [']'])) :=
    (Balanced.of_all (by decide)).append
      ((balanced_literalList hcast vs).append (.of_all (by decide)))
  have hgroup : Balanced ('(' :: ("ARRAY[".toList ++ (literalList cast vs ++ [']']) ++ [')'])) :=
    .group hbracket .nil
  have hplain : Balanced "= ANY ".toList := .of_all (by decide)
  rw [List.append_assoc, List.append_assoc] at hgroup
  exact hplain.append hgroup

include hcast hcolumn in
theorem balanced_limit (l : Limit) (vs : List (List Char)) :
    Balanced (l.text cast column vs) := by
  have hlist := balanced_literalList hcast vs
  cases l with
  | membership =>
    have hplain : Balanced " IN ".toList := .of_all (by decide)
    have hgroup : Balanced ('(' :: (literalList cast vs ++ [')'])) := .group hlist .nil
    rw [Limit.text, List.append_assoc, List.append_assoc]
    exact hcolumn.balanced.append (hplain.append hgroup)
  | anyElement =>
    rw [anyElement_text]
    exact hcolumn.balanced.append (.plain (by decide) (balanced_arrayOperand hcast vs))
  | containment =>
    have hplain : Balanced " <@ ARRAY[".toList := .of_all (by decide)
    rw [Limit.text, List.append_assoc, List.append_assoc]
    exact hcolumn.balanced.append (hplain.append (hlist.append (.of_all (by decide))))

theorem condition_eq {s m : List Char} {c d : Char} (h : freed s = c :: (m ++ [d]))
    (hc : isBlank c = false) (hd : isBlank d = false) (hkey : c.toLower ≠ 'c') :
    condition s = stripOuterParens (freed s) := by
  have htrim : trim (freed s) = freed s := by rw [h, trim_eq_self hc hd]
  have hcheck : afterKeyword? "check".toList (freed s) = none := by
    rw [h]
    simp [afterKeyword?, hkey]
  rw [condition, ← freed, htrim, hcheck]

theorem freed_parenthesized (s : List Char) :
    freed (parenthesized s) = parenthesized (freed s) := by
  have hopen : freed ('(' :: (s ++ [')'])) = '(' :: freed (s ++ [')']) :=
    freed_append_of_not_mem (s := ['(']) (by decide) _
  rw [parenthesized, hopen, freed_append_cons (by decide)]
  rfl

theorem Balanced.parenthesized {s : List Char} (hs : Balanced s) : Balanced (parenthesized s) :=
  .group hs .nil

theorem isWrapped_parenthesized {s : List Char} (hs : Balanced s) :
    isWrapped (parenthesized s) = true := by
  have hclose : closesAtEnd .start (parenthesized s) = true := closesAtEnd_group hs []
  simp [isWrapped, hclose]
  simp [parenthesized, List.getLast?_cons, List.getLast?_append]

theorem stripOuterParens_parenthesized {s : List Char} (hs : Balanced s) :
    stripOuterParens (parenthesized s) = stripOuterParens (trim s) := by
  rw [stripOuterParens, dif_pos (isWrapped_parenthesized hs), parenthesized, inner_wrapped]

theorem stripOuterParens_group_append {s r : List Char} (hs : Balanced s) (hr : r ≠ []) :
    stripOuterParens ('(' :: (s ++ ')' :: r)) = '(' :: (s ++ ')' :: r) := by
  rw [stripOuterParens, dif_neg]
  simp [isWrapped, closesAtEnd_group hs, hr]

theorem condition_parenthesized {s : List Char} (hs : Balanced (freed s)) :
    condition (parenthesized s) = stripOuterParens (trim (freed s)) := by
  have h := freed_parenthesized s
  rw [condition_eq (h.trans rfl) (by decide) (by decide) (by decide), h,
    stripOuterParens_parenthesized hs]

include hcast hcolumn in
theorem condition_limit (l : Limit) (vs : List (List Char)) :
    condition (parenthesized (l.text cast column vs)) =
      l.text cast column (vs.map freedValue) := by
  have hfreed := freed_limit_text hcast hcolumn l vs
  have hbalanced := balanced_limit hcast hcolumn l (vs.map freedValue)
  obtain ⟨m, d, hclose, hd⟩ : ∃ m d, l.close = m ++ [d] ∧ isBlank d = false := by
    cases l
    · exact ⟨[], ')', rfl, by decide⟩
    · exact ⟨[']'], ')', rfl, by decide⟩
    · exact ⟨[], ']', rfl, by decide⟩
  have htext : l.text cast column (vs.map freedValue) =
      column ++ ((l.lead ++ literalList cast (vs.map freedValue) ++ m) ++ d :: []) := by
    simp [Limit.text, hclose]
  rw [condition_parenthesized (hfreed ▸ hbalanced), hfreed, htext, hcolumn.trim hd,
    hcolumn.stripOuterParens]
  rfl

theorem disjunction_eq (s t : List Char) :
    disjunction s t = '(' :: (s ++ ')' :: (" OR ".toList ++ parenthesized t)) := by
  simp [disjunction, parenthesized]

include hcast hcolumn in
theorem condition_disjunction (l : Limit) (vs : List (List Char)) (p : List Char) :
    condition (disjunction (l.text cast column vs) p) =
      disjunction (l.text cast column (vs.map freedValue)) (freed p) := by
  have hfreed : freed (disjunction (l.text cast column vs) p) =
      disjunction (l.text cast column (vs.map freedValue)) (freed p) := by
    have hopen (s t : List Char) : disjunction s t =
        ['('] ++ (s ++ (") OR ".toList ++ parenthesized t)) := disjunction_eq s t
    rw [hopen, hopen, freed_append_of_not_mem (by decide), freed_limit hcast hcolumn,
      freed_append_of_not_mem (by decide), freed_parenthesized]
  have hlast (s t : List Char) : disjunction s t =
      '(' :: ((s ++ ") OR (".toList ++ t) ++ [')']) := by
    simp [disjunction, parenthesized]
  rw [condition_eq (hfreed.trans (hlast _ _)) (by decide) (by decide) (by decide), hfreed,
    disjunction_eq, stripOuterParens_group_append (balanced_limit hcast hcolumn l _) (by simp)]

theorem condition_negation (s : List Char) : condition (negation s) = negation (freed s) := by
  have hfreed : freed (negation s) = negation (freed s) := by
    rw [negation, freed_append_of_not_mem (by decide), freed_parenthesized, ← negation]
  have hlast (t : List Char) : negation t = 'N' :: (("OT (".toList ++ t) ++ [')']) := by
    simp [negation, parenthesized]
  rw [condition_eq (hfreed.trans (hlast _)) (by decide) (by decide) (by decide), hfreed, hlast,
    stripOuterParens_of_head (by decide)]

end Conditions

end ZodCatalog.Check
