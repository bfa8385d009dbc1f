import ZodCatalog.Proofs.LeftSides

/-! Conditions in parentheses joined by the keyword `or`. Each of them is one alternative, whatever
it holds, and the whole is never taken for a membership test: its first parenthesis closes in front
of the keyword, while the list of a test goes on to the end. -/

namespace ZodCatalog.Check
open Text

/-- Conditions in parentheses with the keyword between neighbours. -/
def alternation (ds : List (List Char)) : List Char := joinWith " OR ".toList (ds.map parenthesized)

section Alternations

variable {d e : List Char} {ds : List (List Char)}

theorem alternation_cons_cons (d e : List Char) (ds : List (List Char)) :
    alternation (d :: e :: ds) = parenthesized d ++ (" OR ".toList ++ alternation (e :: ds)) := by
  rw [← List.append_assoc]
  rfl

theorem alternation_concat (d : List Char) (ds : List (List Char)) :
    ∃ r, alternation (d :: ds) = '(' :: (r ++ [')']) := by
  induction ds generalizing d with
  | nil => exact ⟨d, rfl⟩
  | cons e ds ih =>
    obtain ⟨r, hr⟩ := ih e
    refine ⟨d ++ [')'] ++ " OR ".toList ++ '(' :: r, ?_⟩
    rw [alternation_cons_cons, hr, parenthesized]
    simp

theorem balanced_alternation (h : ∀ d ∈ ds, Balanced d) : Balanced (alternation ds) := by
  induction ds with
  | nil => exact .nil
  | cons d ds ih =>
    rw [List.forall_mem_cons] at h
    cases ds with
    | nil => exact h.1.parenthesized
    | cons e ds =>
      rw [alternation_cons_cons]
      exact h.1.parenthesized.append (.append (.of_all (by decide)) (ih h.2))

theorem freed_alternation (ds : List (List Char)) :
    freed (alternation ds) = alternation (ds.map freed) := by
  induction ds with
  | nil => rfl
  | cons d ds ih =>
    cases ds with
    | nil => exact freed_parenthesized d
    | cons e ds =>
      have hor (r : List Char) : freed ("OR ".toList ++ r) = "OR ".toList ++ freed r :=
        freed_append_of_not_mem (by decide) r
      have htext (s r : List Char) :
          s ++ (" OR ".toList ++ r) = s ++ ' ' :: ("OR ".toList ++ r) := by simp
      rw [alternation_cons_cons, htext, freed_append_cons (by decide), freed_parenthesized, hor, ih,
        ← htext]
      exact (alternation_cons_cons ..).symm

/-- With a second condition the first parenthesis closes before the end and stays. -/
theorem strip_alternation (hd : Balanced d) (e : List Char) (ds : List (List Char)) :
    stripOuterParens (trim (alternation (d :: e :: ds))) = alternation (d :: e :: ds) := by
  obtain ⟨r, hr⟩ := alternation_concat d (e :: ds)
  have htrim : trim (alternation (d :: e :: ds)) = alternation (d :: e :: ds) := by
    rw [hr, trim_eq_self (by decide) (by decide)]
  have hopen : alternation (d :: e :: ds) =
      '(' :: (d ++ ')' :: (" OR ".toList ++ alternation (e :: ds))) := by
    rw [alternation_cons_cons, parenthesized]
    simp
  rw [htrim, hopen, stripOuterParens_group_append hd (by simp)]

theorem condition_alternation (hlen : 2 ≤ ds.length) (h : ∀ d ∈ ds, Balanced d) :
    condition (alternation ds) = alternation (ds.map freed) := by
  match ds, hlen with
  | d :: e :: ds, _ =>
    have hfreed := freed_alternation (d :: e :: ds)
    have hstrip := strip_alternation (h d List.mem_cons_self).freed (freed e) (ds.map freed)
    obtain ⟨r, hr⟩ := alternation_concat (freed d) ((e :: ds).map freed)
    have htrim : trim (freed (alternation (d :: e :: ds))) =
        freed (alternation (d :: e :: ds)) := by
      rw [hfreed, List.map_cons, hr, trim_eq_self (by decide) (by decide)]
    rw [condition_eq (hfreed.trans hr) (by decide) (by decide) (by decide), ← htrim, hfreed]
    exact hstrip

theorem alternatives_alternation (h : ∀ d ∈ ds, Balanced d) (hne : ds ≠ []) :
    alternatives .start (alternation ds) = ds.map parenthesized := by
  induction ds with
  | nil => contradiction
  | cons d ds ih =>
    rw [List.forall_mem_cons] at h
    cases ds with
    | nil =>
      have hd := alternatives_parenthesized h.1 []
      rw [List.append_nil, alternatives, pushText_cons_piece, List.append_nil] at hd
      exact hd
    | cons e ds =>
      obtain ⟨r, hr⟩ := alternation_concat e ds
      rw [alternation_cons_cons, alternatives_parenthesized h.1, hr, alternatives_or, ← hr,
        ih h.2 (List.cons_ne_nil e ds), pushText_cons_piece, List.append_nil]
      rfl

theorem strip_parenthesized (hd : Balanced d) :
    stripOuterParens (trim (parenthesized d)) = stripOuterParens (trim d) := by
  rw [parenthesized, trim_eq_self (by decide) (by decide)]
  exact stripOuterParens_parenthesized hd

/-- A chain of equalities is read condition by condition. -/
theorem equalities?_alternation (column : List Char) (hlen : 2 ≤ ds.length)
    (h : ∀ d ∈ ds, Balanced d) : equalities? column (alternation ds) =
      ds.mapM fun d => equality? column (stripOuterParens (trim d)) := by
  have hne : ds ≠ [] := by
    rintro rfl
    contradiction
  have hparts := alternatives_alternation h hne
  have hmap : (ds.map parenthesized).mapM
      (fun part => equality? column (stripOuterParens (trim part))) =
        ds.mapM fun d => equality? column (stripOuterParens (trim d)) := by
    clear hlen hne hparts
    induction ds with
    | nil => rfl
    | cons d ds ih =>
      rw [List.forall_mem_cons] at h
      rw [List.map_cons, List.mapM_cons, List.mapM_cons, strip_parenthesized h.1, ih h.2]
  rw [equalities?, hparts, if_neg (by rw [List.length_map]; omega), hmap]

end Alternations

section Matching

/-- Only a closing parenthesis outside of quotes leaves no parenthesis open. -/
theorem eq_close_of_depth_next {n : Nesting} {c : Char} (hn : n.depth ≠ 0)
    (h : (n.next c).depth = 0) : c = ')' ∧ (n.next c).isTop = true := by
  by_cases hclose : c = ')' ∧ n.quoted = false
  · obtain ⟨rfl, hquoted⟩ := hclose
    have hnext : n.next ')' = ⟨n.depth - 1, false⟩ := by simp [Nesting.next, hquoted]
    rw [hnext] at h ⊢
    exact ⟨rfl, by simpa [Nesting.isTop] using h⟩
  · have hdepth : n.depth ≤ (n.next c).depth := by
      unfold Nesting.next
      grind
    omega

/-- A scan that starts inside of parentheses and ends with the last of them settles. -/
theorem settles_of_closesAtEnd {n : Nesting} {s : List Char} (hn : n.depth ≠ 0)
    (h : closesAtEnd n s = true) : n.settles s = true := by
  induction s generalizing n with
  | nil => simp [closesAtEnd] at h
  | cons c s ih =>
    have hin : n.isTop = false := by simp [Nesting.isTop, hn]
    rw [closesAtEnd] at h
    split at h
    · rename_i hclose
      obtain rfl := List.isEmpty_iff.1 h
      rw [Bool.and_eq_true] at hclose
      simp [Nesting.settles, hin, hclose.2]
    · rename_i hclose
      have hdepth : (n.next c).depth ≠ 0 := by
        intro hzero
        have htop := eq_close_of_depth_next hn hzero
        exact hclose (by simp [htop.1, htop.1 ▸ htop.2])
      rw [Nesting.settles, hin, ih hdepth h]
      rfl

/-- A list that closes at its end is balanced. -/
theorem balanced_of_closesAtEnd {r : List Char} (h : closesAtEnd .start ('(' :: r) = true) :
    Balanced ('(' :: r) := by
  have hinside : closesAtEnd ⟨1, false⟩ r = true := h
  have hsettles : Nesting.settles ⟨1, false⟩ r = true :=
    settles_of_closesAtEnd Nat.one_ne_zero hinside
  exact .of_settles hsettles

/-- The first closing parenthesis behind a balanced text is the same one however it is found. -/
theorem Balanced.match_unique {a b r t : List Char} (ha : Balanced a) (hb : Balanced b)
    (h : a ++ ')' :: r = b ++ ')' :: t) : a = b ∧ r = t := by
  have hlonger {a b x : List Char} (ha : Balanced a) (hb : Balanced b) (hx : b = a ++ ')' :: x) :
      False := by
    have hsettles := balanced_iff_settles.1 hb
    rw [hx, Nesting.start, ha.settles_append, Nesting.settles_close] at hsettles
    exact absurd hsettles (by simp)
  rcases List.append_eq_append_iff.1 h with ⟨m, hb', hm⟩ | ⟨m, ha', hm⟩
  · cases m with
    | nil =>
      rw [List.append_nil] at hb'
      exact ⟨hb'.symm, (List.cons.inj hm).2⟩
    | cons c m => exact (hlonger ha hb (hb'.trans (by rw [(List.cons.inj hm).1]))).elim
  · cases m with
    | nil =>
      rw [List.append_nil] at ha'
      exact ⟨ha', (List.cons.inj hm).2.symm⟩
    | cons c m => exact (hlonger hb ha (ha'.trans (by rw [(List.cons.inj hm).1]))).elim

end Matching

section Subjects

theorem afterKeyword?_shape {s r : List Char} (h : afterKeyword? "in".toList s = some r) :
    ∃ k, s = k ++ r ∧ ∀ c ∈ k, IsPlain c := by
  unfold afterKeyword? at h
  split at h
  · rename_i hk
    refine ⟨s.take 2, ?_, fun c hc hmem => ?_⟩
    · rw [← Option.some.inj h]
      exact (List.take_append_drop 2 s).symm
    · have hlower : c.toLower ∈ "in".toList := hk ▸ List.mem_map_of_mem hc
      have hnone : ∀ d ∈ ['\'', '(', ')', '=', '<'], d.toLower ∉ "in".toList :=
        forall_mem_of_all (by decide)
      exact hnone c hmem hlower
  · contradiction

/-- What stands between the left side of a membership test and its list. -/
theorem operandOfIn?_shape {rest list : List Char} (h : operandOfIn? rest = some list) :
    ∃ mid, rest = mid ++ list ∧ (∀ c ∈ mid, IsPlain c) ∧ list.head? = some '(' := by
  unfold operandOfIn? at h
  split at h
  · rename_i r hcast
    simp only [Option.ite_none_right_eq_some, Bool.and_eq_true, Option.some.injEq] at h
    obtain ⟨⟨-, hopen⟩, rfl⟩ := h
    refine ⟨':' :: ':' :: r.takeWhile isTypeChar, ?_, ?_, beq_iff_eq.1 hopen⟩
    · rw [afterCast?_eq_some hcast, List.cons_append, List.cons_append,
        List.takeWhile_append_dropWhile]
    · rw [List.forall_mem_cons, List.forall_mem_cons]
      exact ⟨by decide, by decide,
        fun _ hc => isPlain_of_isTypeChar (List.mem_takeWhile_imp hc)⟩
  split at h
  · rename_i c r hcast
    split at h
    · rename_i hblank
      simp only [Option.bind_eq_bind, Option.bind_eq_some_iff, Option.ite_none_right_eq_some,
        Option.some.injEq] at h
      obtain ⟨s, hkey, hopen, rfl⟩ := h
      obtain ⟨b, hb, hbplain⟩ := append_trimStart r
      obtain ⟨k, hk, hkplain⟩ := afterKeyword?_shape hkey
      obtain ⟨b', hb', hbplain'⟩ := append_trimStart s
      refine ⟨c :: (b ++ (k ++ b')), ?_, ?_, beq_iff_eq.1 hopen⟩
      · rw [List.cons_append, List.append_assoc, List.append_assoc, ← hb', ← hk, ← hb]
      · rw [List.forall_mem_cons, List.forall_mem_append, List.forall_mem_append]
        exact ⟨isPlain_of_isBlank hblank, fun _ hc => isPlain_of_isBlank (hbplain _ hc), hkplain,
          fun _ hc => isPlain_of_isBlank (hbplain' _ hc)⟩
    · contradiction
  · contradiction

theorem settles_replicate_open (n d : Nat) (r : List Char) :
    Nesting.settles ⟨d, false⟩ (List.replicate n '(' ++ r) = Nesting.settles ⟨d + n, false⟩ r := by
  induction n generalizing d with
  | zero => rfl
  | succ n ih =>
    rw [replicate_append_cons, Nesting.settles_open, ih]
    congr 2
    omega

theorem settles_replicate_close (m d : Nat) (r : List Char) :
    Nesting.settles ⟨d, false⟩ (List.replicate m ')' ++ r) =
      (decide (m ≤ d) && Nesting.settles ⟨d - m, false⟩ r) := by
  induction m generalizing d with
  | zero => simp
  | succ m ih =>
    rw [replicate_append_cons, Nesting.settles_close, ih]
    rcases Nat.eq_zero_or_pos d with rfl | hd
    · simp
    · have hlt : decide (m ≤ d - 1) = decide (m + 1 ≤ d) := by
        rw [decide_eq_decide]
        omega
      have hsub : d - 1 - m = d - (m + 1) := by omega
      rw [hlt, hsub, bne_iff_ne.2 (by omega), Bool.true_and]

/-- Parentheses around a text, as many as are given. -/
theorem Balanced.nested {s : List Char} (hs : Balanced s) (n : Nat) :
    Balanced (List.replicate n '(' ++ (s ++ List.replicate n ')')) := by
  rw [balanced_iff_settles, Nesting.start, settles_replicate_open, hs.settles_append]
  have hclose := settles_replicate_close n (0 + n) []
  rw [List.append_nil] at hclose
  rw [hclose]
  simp [Nesting.settles, Nesting.isTop]

/-- A membership test that goes on to the end of a balanced text opens no more parentheses in front
of its list than it closes there. -/
theorem opens_eq_closes {n m : Nat} {lead mid list : List Char} (hlead : Balanced lead)
    (hmid : Balanced mid) (hlist : Balanced list)
    (h : Balanced (List.replicate n '(' ++ (lead ++ (List.replicate m ')' ++ (mid ++ list))))) :
    n = m := by
  rw [balanced_iff_settles, Nesting.start, settles_replicate_open, hlead.settles_append,
    settles_replicate_close, hmid.settles_append] at h
  have hend := hlist.settles_append (0 + n - m) []
  rw [List.append_nil] at hend
  rw [hend] at h
  simp [Nesting.settles, Nesting.isTop] at h
  omega

/-- Its first parenthesis closes in front of the keyword, where no list follows. -/
theorem membership?_alternation (column : List Char) {d e : List Char} {ds : List (List Char)}
    (h : ∀ d' ∈ d :: e :: ds, Balanced d') :
    membership? column (alternation (d :: e :: ds)) = none := by
  rw [Option.eq_none_iff_forall_ne_some]
  intro values hvalues
  simp only [membership?, Option.bind_eq_bind, Option.bind_eq_some_iff,
    Option.ite_none_right_eq_some, Bool.and_eq_true] at hvalues
  obtain ⟨subject, hsubject, list, hlist, ⟨-, hclose⟩, -⟩ := hvalues
  obtain ⟨n, lead, m, htext, hne, hlead⟩ : ∃ n lead m, alternation (d :: e :: ds) =
      List.replicate n '(' ++ (lead ++ (List.replicate m ')' ++ subject.rest)) ∧
        lead ≠ [] ∧ ∀ c ∈ lead, IsPlain c := by
    obtain ⟨l, -, htext⟩ := subject?_eq_some hsubject
    refine ⟨l.opens, l.inside, l.closes, ?_, l.inside_ne_nil, l.isPlain_inside⟩
    rw [htext, LeftSide.text, List.append_assoc, List.append_assoc]
  obtain ⟨mid, hrest, hmid, hopen⟩ := operandOfIn?_shape hlist
  have hlistBalanced : Balanced list := by
    cases list with
    | nil => contradiction
    | cons c r =>
      obtain rfl := Option.some.inj hopen
      exact balanced_of_closesAtEnd hclose
  have hall := balanced_alternation h
  rw [htext, hrest] at hall
  obtain rfl := opens_eq_closes (.of_isPlain hlead) (.of_isPlain hmid) hlistBalanced hall
  have hfirst : alternation (d :: e :: ds) =
      '(' :: (d ++ ')' :: (" OR ".toList ++ alternation (e :: ds))) := by
    rw [alternation_cons_cons, parenthesized]
    simp
  cases n with
  | zero =>
    obtain ⟨c, lead, rfl⟩ := List.exists_cons_of_ne_nil hne
    rw [hfirst] at htext
    have hc : '(' = c := (List.cons.inj htext).1
    exact hlead c List.mem_cons_self (hc ▸ by simp)
  | succ n =>
    have hnested := (Balanced.of_isPlain hlead).nested n
    have hmatch : d ++ ')' :: (" OR ".toList ++ alternation (e :: ds)) =
        (List.replicate n '(' ++ (lead ++ List.replicate n ')')) ++ ')' :: subject.rest := by
      rw [hfirst, replicate_append_cons] at htext
      rw [(List.cons.inj htext).2, List.replicate_succ']
      simp
    obtain ⟨-, hrest⟩ := (h d List.mem_cons_self).match_unique hnested hmatch
    have hnone (r : List Char) : operandOfIn? (" OR ".toList ++ r) = none := rfl
    rw [← hrest, hnone] at hlist
    contradiction

theorem valueSet?_alternation (column : List Char) {ds : List (List Char)} (hlen : 2 ≤ ds.length)
    (h : ∀ d ∈ ds, Balanced d) (hnone : anyArray? (alternation ds) = none) :
    valueSet? column (alternation ds) =
      (ds.mapM fun d => equality? column (stripOuterParens (trim d))).orElse fun _ =>
        containment? column (alternation ds) := by
  have hmembership : membership? column (alternation ds) = none := by
    match ds, hlen with
    | d :: e :: ds, _ => exact membership?_alternation column h
  rw [valueSet?, hnone, hmembership, equalities?_alternation column hlen h]
  rfl

end Subjects

end ZodCatalog.Check
