import ZodCatalog.Proofs.QuotedText

/-! Lists of literals read back. A list of quoted values, each with the same cast or none, gives
the values that are not empty; what a torn list gives is part of its text. -/

namespace ZodCatalog.Text

theorem trimStart_cons {c : Char} (h : isBlank c = false) (r : List Char) :
    trimStart (c :: r) = c :: r := by
  simp [trimStart, h]

theorem trimStart_blank_cons {c : Char} (h : isBlank c = true) (r : List Char) :
    trimStart (c :: r) = trimStart r := by
  simp [trimStart, h]

theorem trimStart_append_cons {c : Char} (h : isBlank c = false) (s r : List Char) :
    trimStart (s ++ c :: r) = trimStart s ++ c :: r := by
  induction s with
  | nil => exact trimStart_cons h r
  | cons d s ih =>
    cases hd : isBlank d with
    | true => simpa [trimStart, hd] using ih
    | false => simp [trimStart, hd]

theorem trimEnd_append {c : Char} (h : isBlank c = false) (s r : List Char) :
    trimEnd (s ++ c :: r) = s ++ c :: trimEnd r := by
  have hw : (c :: s.reverse).dropWhile isBlank = c :: s.reverse := by simp [h]
  have hr : (s ++ c :: r).reverse = r.reverse ++ c :: s.reverse := by simp
  rw [trimEnd, trimEnd, hr, List.dropWhile_append, hw]
  by_cases hb : (r.reverse.dropWhile isBlank).isEmpty = true
  · rw [if_pos hb, List.isEmpty_iff.1 hb]
    simp
  · rw [if_neg hb]
    simp

theorem trim_cons {c : Char} (h : isBlank c = false) (r : List Char) :
    trim (c :: r) = c :: trimEnd r := by
  rw [trim, trimStart_cons h]
  exact trimEnd_append h [] r

/-- A text that neither starts nor ends with a blank is trimmed. -/
theorem trim_eq_self {c d : Char} (hc : isBlank c = false) (hd : isBlank d = false)
    (r : List Char) : trim (c :: (r ++ [d])) = c :: (r ++ [d]) := by
  rw [trim_cons hc, trimEnd_append hd]
  rfl

theorem trim_blank_cons {c : Char} (h : isBlank c = true) (r : List Char) :
    trim (c :: r) = trim r := by
  rw [trim, trimStart_blank_cons h, ← trim]

theorem trim_sublist (s : List Char) : (trim s).Sublist s := by
  have hend (t : List Char) : (trimEnd t).Sublist t := by
    have h := (List.dropWhile_sublist isBlank (l := t.reverse)).reverse
    rwa [List.reverse_reverse] at h
  exact (hend _).trans (List.dropWhile_sublist _)

theorem replacePair_cons {first c : Char} (h : c ≠ first) (second : Char)
    (replacement r : List Char) : replacePair first second replacement (c :: r) =
      c :: replacePair first second replacement r := by
  cases r with
  | nil => rfl
  | cons d r => simp [replacePair, h]

theorem replacePair_ne_nil {first second : Char} {replacement s : List Char}
    (hr : replacement ≠ []) (hs : s ≠ []) : replacePair first second replacement s ≠ [] := by
  fun_cases replacePair first second replacement s <;> simp_all

/-- Replacing a pair by its second character only drops characters. -/
theorem replacePair_sublist (first second : Char) (s : List Char) :
    (replacePair first second [second] s).Sublist s := by
  fun_induction replacePair first second [second] s with
  | case1 => exact .slnil
  | case2 c => exact .refl _
  | case3 c d r h ih =>
    obtain ⟨-, rfl⟩ : c = first ∧ d = second := by simpa using h
    exact (ih.cons_cons d).cons c
  | case4 c d r h ih => exact ih.cons_cons c

end ZodCatalog.Text

namespace ZodCatalog.Check
open Text

theorem trimEnd_doubled (v : List Char) : trimEnd (doubled v) = doubled (trimEnd v) := by
  have hdrop (w : List Char) : (doubled w).dropWhile isBlank = doubled (w.dropWhile isBlank) := by
    have hq : isBlank '\'' = false := by decide
    induction w with
    | nil => rfl
    | cons c r ih =>
      by_cases hc : c = '\''
      · subst hc
        simp [hq]
      · rw [doubled_cons hc, List.dropWhile_cons, List.dropWhile_cons, ih]
        split
        · rfl
        · rw [doubled_cons hc]
  rw [trimEnd, ← doubled_reverse, hdrop, ← doubled_reverse, trimEnd]

theorem inner_wrapped (c d : Char) (s : List Char) : inner (c :: (s ++ [d])) = s := by
  simp [inner]

theorem inner_sublist (s : List Char) : (inner s).Sublist s :=
  (List.dropLast_sublist _).trans (List.tail_sublist _)

theorem withoutCast_sublist (q : Bool) (s : List Char) : (withoutCast q s).Sublist s := by
  fun_induction withoutCast q s with
  | case1 => exact .refl _
  | case2 q r ih => exact ih.cons_cons '\''
  | case3 q c r hc h => exact List.nil_sublist _
  | case4 q c r hc h ih => exact ih.cons_cons c

theorem stripParenEnds_of_head {c : Char} (h : c ≠ '(') (r : List Char) :
    stripParenEnds (c :: r) = c :: r := by
  rw [stripParenEnds, dif_neg]
  simp [hasParenEnds, h]

theorem stripParenEnds_sublist (s : List Char) : (stripParenEnds s).Sublist s := by
  fun_induction stripParenEnds s with
  | case1 s h ih => exact ih.trans ((trim_sublist _).trans (inner_sublist s))
  | case2 s h => exact .refl _

theorem replacePair_doubled (v : List Char) :
    replacePair '\'' '\'' ['\''] (doubled v) = v := by
  induction v with
  | nil => rfl
  | cons c r ih =>
    by_cases hc : c = '\''
    · subst hc
      rw [doubled_quote, replacePair, if_pos (by decide), ih]
      rfl
    · rw [doubled_cons hc, replacePair_cons hc, ih]

theorem unquote_quoteLiteral (v : List Char) : unquote (quoteLiteral v) = v := by
  have hends : isEnclosedBy '\'' (quoteLiteral v) = true := by
    simp [isEnclosedBy, quoteLiteral_eq, List.getLast?_cons, List.getLast?_append]
  rw [unquote, if_pos hends, quoteLiteral_eq, inner_wrapped, replacePair_doubled]

theorem unquote_sublist (s : List Char) : (unquote s).Sublist s := by
  unfold unquote
  split
  · exact (replacePair_sublist _ _ _).trans (inner_sublist s)
  · split
    · exact inner_sublist s
    · exact .refl s

theorem literalValue?_sublist {s v : List Char} (h : literalValue? s = some v) : v.Sublist s := by
  simp only [literalValue?] at h
  split at h
  · contradiction
  · obtain rfl := Option.some.inj h
    refine (unquote_sublist _).trans ((stripParenEnds_sublist _).trans ((trim_sublist _).trans ?_))
    exact (withoutCast_sublist _ _).trans ((stripParenEnds_sublist _).trans (trim_sublist s))

theorem literalValue?_blank_cons {c : Char} (h : isBlank c = true) (s : List Char) :
    literalValue? (c :: s) = literalValue? s := by
  rw [literalValue?, trim_blank_cons h, ← literalValue?]

/-- A cast to a type whose name is made of ASCII words, or no cast. -/
def IsCast (s : List Char) : Prop :=
  s = [] ∨ ∃ type, s = ':' :: ':' :: type ∧ ∀ c ∈ type, c.isAlphanum = true ∨ c = '_' ∨ c = ' '

theorem isCast_text : IsCast "::text".toList :=
  .inr ⟨"text".toList, rfl, forall_mem_of_all (by decide)⟩

theorem IsCast.not_mem {s : List Char} (h : IsCast s) {c : Char} (hc : c.isAlphanum = false)
    (hs : c ∉ [':', '_', ' ']) : c ∉ s := by
  simp only [List.mem_cons, List.not_mem_nil, or_false, not_or] at hs
  rcases h with rfl | ⟨type, rfl, htype⟩
  · exact List.not_mem_nil
  · intro hmem
    rcases List.mem_cons.1 hmem with rfl | hmem
    · exact hs.1 rfl
    rcases List.mem_cons.1 hmem with rfl | hmem
    · exact hs.1 rfl
    · rcases htype c hmem with h | h | h
      · simp [h] at hc
      · exact hs.2.1 h
      · exact hs.2.2 h

theorem IsCast.plain {s : List Char} (h : IsCast s) : ∀ c ∈ s, c ∉ ['\'', '(', ')', ','] := by
  intro c hc hmem
  simp only [List.mem_cons, List.not_mem_nil, or_false] at hmem
  rcases hmem with rfl | rfl | rfl | rfl <;> exact h.not_mem (by decide) (by decide) hc

/-- Values as quoted literals with one cast, separated by commas. -/
def literalList (cast : List Char) (vs : List (List Char)) : List Char :=
  joinWith ", ".toList (vs.map fun v => quoteLiteral v ++ cast)

theorem literalList_singleton (cast v : List Char) :
    literalList cast [v] = quoteLiteral v ++ cast := rfl

theorem literalList_cons_cons (cast v w : List Char) (vs : List (List Char)) :
    literalList cast (v :: w :: vs) =
      quoteLiteral v ++ cast ++ ", ".toList ++ literalList cast (w :: vs) := rfl

variable {cast : List Char}

theorem balanced_literalList (hcast : IsCast cast) (vs : List (List Char)) :
    Balanced (literalList cast vs) := by
  have hplain : Balanced cast := .of_plain fun c hc hmem =>
    hcast.plain c hc (forall_mem_of_all (by decide) c hmem)
  have hitem (v : List Char) : Balanced (quoteLiteral v ++ cast) := .literal v hplain
  have hsep : Balanced ", ".toList := .of_all (by decide)
  induction vs with
  | nil => exact .nil
  | cons v vs ih =>
    cases vs with
    | nil => exact hitem v
    | cons w vs => exact ((hitem v).append hsep).append ih

/-- The literal of a value has that value, with any cast, unless it is the empty one. -/
theorem literalValue?_literal (hcast : IsCast cast) (v : List Char) :
    literalValue? (quoteLiteral v ++ cast) = if v.isEmpty then none else some v := by
  have hq : isBlank '\'' = false := by decide
  have hself : trim (quoteLiteral v) = quoteLiteral v := trim_eq_self hq hq _
  have hstrip (r : List Char) : stripParenEnds (quoteLiteral v ++ r) = quoteLiteral v ++ r :=
    stripParenEnds_of_head (by decide) _
  obtain ⟨t, htrim, hcut⟩ : ∃ t, trim (quoteLiteral v ++ cast) = quoteLiteral v ++ t ∧
      withoutCast false t = [] := by
    rcases hcast with rfl | ⟨type, rfl, -⟩
    · exact ⟨[], by rw [List.append_nil, hself], rfl⟩
    · refine ⟨':' :: ':' :: trimEnd type, ?_, rfl⟩
      have hcolon : isBlank ':' = false := by decide
      have hend : trimEnd (':' :: type) = ':' :: trimEnd type := trimEnd_append hcolon [] type
      rw [quoteLiteral_eq, List.cons_append, trim_cons hq, trimEnd_append hcolon, hend]
      rfl
  have hvalue : stripParenEnds (trim (withoutCast false (stripParenEnds
      (trim (quoteLiteral v ++ cast))))) = quoteLiteral v := by
    rw [htrim, hstrip, withoutCast_quoteLiteral, hcut, List.append_nil, hself]
    simpa using hstrip []
  rw [literalValue?, hvalue, unquote_quoteLiteral]

theorem commaPieces_plain {s : List Char} (h : ∀ c ∈ s, c ∉ ['\'', '(', ')', ','])
    (r : List Char) :
    commaPieces .start (s ++ r) = pushText s (commaPieces .start r) := by
  induction s with
  | nil => rfl
  | cons c s ih =>
    have hc := h c List.mem_cons_self
    have hnext : Nesting.next .start c = .start :=
      Nesting.next_plain (fun hmem => hc (forall_mem_of_all (by decide) c hmem)) 0
    rw [List.cons_append, commaPieces, if_neg (by simp_all), hnext,
      ih fun d hd => h d (.tail _ hd)]
    rfl

theorem commaPieces_literal (hcast : IsCast cast) (v r : List Char) :
    commaPieces .start (quoteLiteral v ++ cast ++ r) =
      pushText (quoteLiteral v ++ cast) (commaPieces .start r) := by
  rw [List.append_assoc, Nesting.start, passesInside_commaPieces.quoteLiteral, ← Nesting.start,
    commaPieces_plain hcast.plain, pushText_append]
  rfl

theorem commaPieces_ne_nil (n : Nesting) (s : List Char) : commaPieces n s ≠ [] := by
  cases s with
  | nil => simp [commaPieces]
  | cons c r =>
    rw [commaPieces]
    split
    · simp
    · cases commaPieces (n.next c) r <;> simp [pushHead]

theorem literalValues_blank_cons {c : Char} (h : isBlank c = true) (s : List Char) :
    literalValues (c :: s) = literalValues s := by
  have hplain : c ∉ ['\'', '(', ')', ','] := by
    intro hmem
    simp only [List.mem_cons, List.not_mem_nil, or_false] at hmem
    rcases hmem with rfl | rfl | rfl | rfl <;> exact absurd h (by decide)
  have hpieces : commaPieces .start (c :: s) = pushHead c (commaPieces .start s) :=
    commaPieces_plain (s := [c]) (List.forall_mem_singleton.2 hplain) s
  rw [literalValues, literalValues, hpieces]
  cases hp : commaPieces .start s with
  | nil => exact absurd hp (commaPieces_ne_nil _ _)
  | cons piece pieces =>
    rw [pushHead, List.filterMap_cons, literalValue?_blank_cons h, List.filterMap_cons]

theorem literalValues_literal (hcast : IsCast cast) (v : List Char) :
    literalValues (quoteLiteral v ++ cast) = [v].filter fun w => !w.isEmpty := by
  have hpieces := commaPieces_literal hcast v []
  rw [List.append_nil, commaPieces, pushText_cons_piece, List.append_nil] at hpieces
  rw [literalValues, hpieces, List.filterMap_cons, literalValue?_literal hcast]
  cases v <;> rfl

theorem literalValues_literal_append (hcast : IsCast cast) (v r : List Char) :
    literalValues (quoteLiteral v ++ cast ++ ", ".toList ++ r) =
      ([v].filter fun w => !w.isEmpty) ++ literalValues r := by
  have hsep : commaPieces .start (", ".toList ++ r) = [] :: commaPieces .start (' ' :: r) := rfl
  rw [← literalValues_blank_cons (c := ' ') (by decide) r, List.append_assoc, literalValues,
    commaPieces_literal hcast, hsep, pushText_cons_piece, List.append_nil, List.filterMap_cons,
    literalValue?_literal hcast]
  cases v <;> rfl

/-- A list of literals gives the values that are not empty, each once and in order. -/
theorem literalValues_literalList (hcast : IsCast cast) (vs : List (List Char)) :
    literalValues (literalList cast vs) = vs.filter fun v => !v.isEmpty := by
  induction vs with
  | nil =>
    have hnil : stripParenEnds [] = [] := by rw [stripParenEnds, dif_neg (by decide)]
    simp [literalList, joinWith, literalValues, commaPieces, literalValue?, hnil, withoutCast,
      unquote, isEnclosedBy]
  | cons v vs ih =>
    cases vs with
    | nil => exact literalValues_literal hcast v
    | cons w vs =>
      rw [literalList_cons_cons, literalValues_literal_append hcast, ih, ← List.filter_append]
      rfl

theorem commaPieces_flatten_sublist (n : Nesting) (s : List Char) :
    (commaPieces n s).flatten.Sublist s := by
  fun_induction commaPieces n s with
  | case1 => exact .slnil
  | case2 n c r h ih => exact ih.cons c
  | case3 n c r h ih =>
    cases hp : commaPieces (n.next c) r with
    | nil => exact absurd hp (commaPieces_ne_nil _ _)
    | cons piece pieces =>
      rw [hp] at ih
      exact ih.cons_cons c

/-- The values of any text, one after the other, are what is left of it when some characters
are dropped. -/
theorem literalValues_flatten_sublist (s : List Char) :
    (literalValues s).flatten.Sublist s := by
  have hpieces (pieces : List (List Char)) :
      (pieces.filterMap literalValue?).flatten.Sublist pieces.flatten := by
    induction pieces with
    | nil => exact .slnil
    | cons piece pieces ih =>
      rw [List.flatten_cons]
      cases hv : literalValue? piece with
      | none =>
        rw [List.filterMap_cons_none hv]
        exact ih.trans (List.sublist_append_right _ _)
      | some v =>
        rw [List.filterMap_cons_some hv, List.flatten_cons]
        exact (literalValue?_sublist hv).append ih
  exact (hpieces _).trans (commaPieces_flatten_sublist _ _)

end ZodCatalog.Check
