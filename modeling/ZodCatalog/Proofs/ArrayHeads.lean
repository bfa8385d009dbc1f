import Mathlib.Data.List.TakeWhile
import ZodCatalog.Check.Clause
import ZodCatalog.Proofs.LiteralLists

/-! Where a comparison with the elements of an array is found. Its head `= any (array [` is looked
for in the whole text, quoted values included, and its elements end at the first bracket. -/

namespace ZodCatalog.Check
open Text

/-- What follows the head `= any (array [` at the start of a text. -/
def afterArrayHead? (s : List Char) : Option (List Char) := do
  let s ← afterChar? '=' s
  let s ← afterKeyword? "any".toList (trimStart s)
  let s ← afterChar? '(' (trimStart s)
  let s ← afterKeyword? "array".toList (skipChar '(' (trimStart s))
  afterChar? '[' (trimStart s)

/-- Whether the head of a comparison with the elements of an array stands anywhere in a text. -/
def opensArray : List Char → Bool
  | [] => false
  | c :: r => (afterArrayHead? (c :: r)).isSome || opensArray r

theorem cutFirst_map_fst (p : Char → Bool) (s : List Char) :
    (cutFirst p s).map Prod.fst = if s.any p then some (s.takeWhile fun c => !p c) else none := by
  induction s with
  | nil => rfl
  | cons c r ih =>
    cases hc : p c with
    | true => simp [cutFirst, hc]
    | false =>
      have hmap : (cutFirst p (c :: r)).map Prod.fst =
          ((cutFirst p r).map Prod.fst).map (c :: ·) := by
        simp only [cutFirst, hc, Bool.false_eq_true, if_false, Option.map_map]
        rfl
      rw [hmap, ih]
      cases hr : r.any p <;> simp [hc, hr]

theorem anyArrayHere?_eq (s : List Char) :
    anyArrayHere? s =
      (afterArrayHead? s).bind fun r => (cutFirst (· == ']') r).map Prod.fst := by
  have hpure (o : Option (List Char × List Char)) :
      (o.bind fun cut => pure cut.fst) = o.map Prod.fst := by cases o <;> rfl
  simp only [anyArrayHere?, arrayBody?, afterArrayHead?, Option.bind_eq_bind, Option.bind_assoc,
    hpure]

theorem afterChar?_eq_some {c : Char} {s r : List Char} :
    afterChar? c s = some r ↔ s = c :: r := by
  cases s with
  | nil => simp [afterChar?]
  | cons d t => by_cases hd : d = c <;> simp [afterChar?, hd]

theorem afterKeyword?_suffix {k s r : List Char} (h : afterKeyword? k s = some r) : r <:+ s := by
  unfold afterKeyword? at h
  split at h
  · exact Option.some.inj h ▸ List.drop_suffix ..
  · contradiction

theorem skipChar_suffix (c : Char) (s : List Char) : skipChar c s <:+ s := by
  unfold skipChar
  split
  · rename_i r h
    rw [afterChar?_eq_some.1 h]
    exact (List.dropWhile_suffix _).trans (List.suffix_cons ..)
  · exact List.suffix_refl s

theorem afterArrayHead?_suffix {s r : List Char} (h : afterArrayHead? s = some r) :
    ('[' :: r) <:+ s := by
  simp only [afterArrayHead?, Option.bind_eq_bind, Option.bind_eq_some_iff] at h
  obtain ⟨s₁, h₁, s₂, h₂, s₃, h₃, s₄, h₄, h₅⟩ := h
  have htrim (t : List Char) : trimStart t <:+ t := List.dropWhile_suffix _
  rw [afterChar?_eq_some] at h₁ h₃ h₅
  have step₁ : s₂ <:+ s := h₁ ▸ ((afterKeyword?_suffix h₂).trans (htrim _)).trans
    (List.suffix_cons ..)
  have step₂ : s₃ <:+ s₂ := (h₃ ▸ List.suffix_cons ..).trans (htrim _)
  have step₃ : s₄ <:+ s₃ :=
    (afterKeyword?_suffix h₄).trans ((skipChar_suffix _ _).trans (htrim _))
  exact (h₅ ▸ htrim s₄).trans (step₃.trans (step₂.trans step₁))

/-- Readers that never look past the character `d`. -/
def StopsBefore (d : Char) (f : List Char → Option (List Char)) : Prop :=
  ∀ u w, f (u ++ d :: w) = (f u).map (· ++ d :: w)

namespace StopsBefore

variable {d : Char} {f g : List Char → Option (List Char)}

theorem bind (hf : StopsBefore d f) (hg : StopsBefore d g) :
    StopsBefore d fun s => (f s).bind g := by
  intro u w
  show (f (u ++ d :: w)).bind g = ((f u).bind g).map _
  rw [hf u w]
  cases f u with
  | none => rfl
  | some r => exact hg r w

theorem afterChar {c : Char} (h : d ≠ c) : StopsBefore d (afterChar? c) := by
  intro u w
  cases u with
  | nil => simp [afterChar?, h]
  | cons e u => by_cases he : e = c <;> simp [afterChar?, he]

theorem afterKeyword {k : List Char} (h : d.toLower ∉ k) : StopsBefore d (afterKeyword? k) := by
  intro u w
  unfold afterKeyword?
  -- A keyword that is longer than `u` would have to go on with `d`.
  rcases Nat.lt_or_ge u.length k.length with hlt | hle
  · obtain ⟨m, hm⟩ : ∃ m, k.length - u.length = m + 1 :=
      ⟨k.length - u.length - 1, by omega⟩
    rw [if_neg, if_neg]
    · rfl
    · intro hk
      have := congrArg List.length hk
      simp only [List.length_map, List.length_take] at this
      omega
    · intro hk
      apply h
      rw [← hk, List.take_append, hm]
      simp
  · rw [List.take_append_of_le_length hle, List.drop_append_of_le_length hle]
    split <;> rfl

theorem trimmed (hd : isBlank d = false) (hf : StopsBefore d f) :
    StopsBefore d fun s => f (trimStart s) := by
  intro u w
  show f (trimStart (u ++ d :: w)) = _
  rw [trimStart_append_cons hd, hf]

theorem skipped {c : Char} (hc : d ≠ c) (hd : isBlank d = false) (hf : StopsBefore d f) :
    StopsBefore d fun s => f (skipChar c s) := by
  have hskip (u w : List Char) : skipChar c (u ++ d :: w) = skipChar c u ++ d :: w := by
    unfold skipChar
    rw [afterChar hc u w]
    cases afterChar? c u with
    | none => rfl
    | some r => exact trimStart_append_cons hd r w
  intro u w
  show f (skipChar c (u ++ d :: w)) = _
  rw [hskip u w, hf]

/-- The head of an array holds no quote and no closing bracket. -/
theorem afterArrayHead (h : d = '\'' ∨ d = ']') : StopsBefore d afterArrayHead? := by
  have hb : isBlank d = false := by rcases h with rfl | rfl <;> decide
  have hne (c : Char) (hc : c ∈ ['=', '(', '[']) : d ≠ c := by
    rintro rfl
    rcases h with rfl | rfl <;> simp at hc
  have hkey (k : List Char) (hk : k ∈ ["any".toList, "array".toList]) : d.toLower ∉ k := by
    rcases h with rfl | rfl <;> revert k <;> decide
  exact (afterChar (hne _ (by simp))).bind <| (trimmed hb (afterKeyword (hkey _ (by simp)))).bind <|
    (trimmed hb (afterChar (hne _ (by simp)))).bind <|
    (trimmed hb (skipped (hne _ (by simp)) hb (afterKeyword (hkey _ (by simp))))).bind <|
    trimmed hb (afterChar (hne _ (by simp)))

end StopsBefore

theorem afterArrayHead?_cons_of_ne {c : Char} (h : c ≠ '=') (r : List Char) :
    afterArrayHead? (c :: r) = none := by
  simp [afterArrayHead?, afterChar?, h]

theorem opensArray_append_of_not_mem {s : List Char} (h : '=' ∉ s) (r : List Char) :
    opensArray (s ++ r) = opensArray r := by
  induction s with
  | nil => rfl
  | cons c s ih =>
    have hc : c ≠ '=' := fun e => h (e ▸ List.mem_cons_self)
    rw [List.cons_append, opensArray, afterArrayHead?_cons_of_ne hc,
      ih fun hs => h (List.mem_cons_of_mem _ hs)]
    rfl

theorem opensArray_of_not_mem {s : List Char} (h : '=' ∉ s) : opensArray s = false := by
  simpa [opensArray] using opensArray_append_of_not_mem h []

theorem opensArray_append_quote (u w : List Char) :
    opensArray (u ++ '\'' :: w) = (opensArray u || opensArray w) := by
  induction u with
  | nil => exact opensArray_append_of_not_mem (s := ['\'']) (by decide) w
  | cons c u ih =>
    have hhead := StopsBefore.afterArrayHead (.inl rfl) (c :: u) w
    rw [List.cons_append] at hhead ⊢
    rw [opensArray, opensArray, hhead, ih, Option.isSome_map, Bool.or_assoc]

/-- Doubling quotes neither makes nor breaks the head of an array, since a head has none. -/
theorem opensArray_doubled (v w : List Char) :
    opensArray (doubled v ++ '\'' :: w) = (opensArray v || opensArray w) := by
  have hhead (v : List Char) : (afterArrayHead? (doubled v ++ '\'' :: w)).isSome =
      (afterArrayHead? v).isSome := by
    -- Only the text in front of the first quote counts, and doubling keeps that.
    by_cases hv : '\'' ∈ v
    · obtain ⟨u, t, rfl, hu⟩ := List.eq_append_cons_of_mem hv
      rw [doubled_append, doubled_eq_self hu, doubled_quote, List.append_assoc, List.cons_append,
        StopsBefore.afterArrayHead (.inl rfl), StopsBefore.afterArrayHead (.inl rfl),
        Option.isSome_map, Option.isSome_map]
    · rw [doubled_eq_self hv, StopsBefore.afterArrayHead (.inl rfl), Option.isSome_map]
  induction v with
  | nil => exact opensArray_append_quote [] w
  | cons c v ih =>
    by_cases hc : c = '\''
    · subst hc
      have hquote (r : List Char) : opensArray ('\'' :: r) = opensArray r :=
        opensArray_append_quote [] r
      rw [doubled_quote, List.cons_append, List.cons_append, hquote, hquote, hquote, ih]
    · have hfirst := hhead (c :: v)
      rw [doubled_cons hc, List.cons_append] at hfirst ⊢
      rw [opensArray, opensArray, hfirst, ih, Bool.or_assoc]

theorem opensArray_quoteLiteral (v w : List Char) :
    opensArray (quoteLiteral v ++ w) = (opensArray v || opensArray w) := by
  rw [quoteLiteral_eq, List.cons_append, List.append_assoc, List.singleton_append]
  exact (opensArray_append_quote [] _).trans (opensArray_doubled v w)

theorem opensArray_literalList {cast : List Char} (hcast : IsCast cast)
    (vs : List (List Char)) (w : List Char) :
    opensArray (literalList cast vs ++ w) = (vs.any opensArray || opensArray w) := by
  have hitem (v t : List Char) :
      opensArray (quoteLiteral v ++ cast ++ t) = (opensArray v || opensArray t) := by
    rw [List.append_assoc, opensArray_quoteLiteral,
      opensArray_append_of_not_mem (hcast.not_mem (by decide) (by decide))]
  induction vs with
  | nil => rfl
  | cons v vs ih =>
    cases vs with
    | nil => rw [literalList_singleton, hitem]; simp
    | cons u vs =>
      rw [literalList_cons_cons, List.append_assoc, List.append_assoc, hitem,
        opensArray_append_of_not_mem (by decide), ih, ← Bool.or_assoc, ← List.any_cons]

theorem anyArrayHere?_cons_of_ne {c : Char} (h : c ≠ '=') (r : List Char) :
    anyArrayHere? (c :: r) = none := by
  rw [anyArrayHere?_eq, afterArrayHead?_cons_of_ne h]
  rfl

theorem anyArray?_append_of_not_mem {s : List Char} (h : '=' ∉ s) (r : List Char) :
    anyArray? (s ++ r) = anyArray? r := by
  induction s with
  | nil => rfl
  | cons c s ih =>
    have hc : c ≠ '=' := fun e => h (e ▸ List.mem_cons_self)
    rw [List.cons_append, anyArray?, anyArrayHere?_cons_of_ne hc,
      ih fun hs => h (List.mem_cons_of_mem _ hs)]
    rfl

theorem anyArray?_eq_none {s : List Char} (h : opensArray s = false) : anyArray? s = none := by
  induction s with
  | nil => rfl
  | cons c r ih =>
    rw [opensArray, Bool.or_eq_false_iff, Option.isSome_eq_false_iff, Option.isNone_iff_eq_none]
      at h
    rw [anyArray?, anyArrayHere?_eq, h.1, ih h.2]
    rfl

/-- In front of a closing bracket every head of an array has elements. -/
theorem isSome_anyArray? {s w : List Char} (h : opensArray s = true) :
    (anyArray? (s ++ ']' :: w)).isSome = true := by
  induction s with
  | nil => contradiction
  | cons c s ih =>
    have hstop := StopsBefore.afterArrayHead (.inr rfl) (c :: s) w
    rw [List.cons_append] at hstop ⊢
    rw [anyArray?, anyArrayHere?_eq, hstop]
    cases hhead : afterArrayHead? (c :: s) with
    | some r => simp [cutFirst_map_fst]
    | none =>
      rw [opensArray, hhead, Option.isSome_none, Bool.false_or] at h
      exact ih h

/-- The elements end in front of the first closing bracket, and their opening bracket stands in
the text before them. -/
theorem anyArray?_eq_some {s body : List Char} (h : anyArray? s = some body) :
    ']' ∉ body ∧ ('[' :: body).Sublist s := by
  induction s with
  | nil => contradiction
  | cons c r ih =>
    rw [anyArray?] at h
    cases hhere : anyArrayHere? (c :: r) with
    | none =>
      rw [hhere] at h
      exact ⟨(ih h).1, (ih h).2.cons c⟩
    | some here =>
      obtain rfl : here = body := by
        rw [hhere] at h
        exact Option.some.inj h
      rw [anyArrayHere?_eq] at hhere
      obtain ⟨t, hhead, hcut⟩ := Option.bind_eq_some_iff.1 hhere
      rw [cutFirst_map_fst] at hcut
      split at hcut
      · obtain rfl := Option.some.inj hcut
        refine ⟨fun hm => by simpa using List.mem_takeWhile_imp hm, ?_⟩
        exact ((List.takeWhile_sublist _).cons_cons '[').trans
          (afterArrayHead?_suffix hhead).sublist
      · contradiction

/-- A comparison with an array whose head has no equals sign in front of it. -/
theorem anyArray?_comparison {s r : List Char} (hs : '=' ∉ s) (hr : ']' ∈ r) :
    anyArray? (s ++ "= ANY (ARRAY[".toList ++ r) = some (r.takeWhile (· != ']')) := by
  have hhead : afterArrayHead? ("= ANY (ARRAY[".toList ++ r) = some r := rfl
  have hany : r.any (· == ']') = true := List.any_eq_true.2 ⟨_, hr, by decide⟩
  have hhere : anyArrayHere? ("= ANY (ARRAY[".toList ++ r) = some (r.takeWhile (· != ']')) := by
    rw [anyArrayHere?_eq, hhead, Option.bind_some, cutFirst_map_fst, if_pos hany]
    rfl
  rw [List.append_assoc, anyArray?_append_of_not_mem hs]
  have hcons : "= ANY (ARRAY[".toList ++ r = '=' :: (" ANY (ARRAY[".toList ++ r) := rfl
  rw [hcons] at hhere ⊢
  rw [anyArray?, hhere]
  rfl

end ZodCatalog.Check
