import ZodCatalog.Proofs.ClauseReaders
import ZodCatalog.Proofs.CountedParentheses
import ZodCatalog.Proofs.IdentifierForms

/-! Where a text is cut into alternatives: at each separator outside of quotes and parentheses that
the text goes on behind and that does not reach back into the one before, and nowhere else. The
pieces and the separators between them are the text again. -/

namespace ZodCatalog.Check
open Text Nesting

/-- A separator at a place of a text that goes on behind it. The place is outside of quotes and
parentheses, those included that are open in front of the text. -/
structure SeparatesAt (n : Nesting) (s : List Char) (i : Nat) : Prop where
  closed : depthFrom n.depth (unquoted n.quoted (s.take i)) = 0
  outside : quotedFrom n.quoted (s.take i) = false
  spelled : eqIgnoringAsciiCase ((s.drop i).take 4) " or ".toList = true
  followed : i + 4 < s.length

/-- The places at which a text is cut, from the left. -/
structure CutsAt (n : Nesting) (s : List Char) (cuts : List Nat) : Prop where
  apart : cuts.Pairwise fun i j => i + 4 ≤ j
  mem_iff : ∀ i, i ∈ cuts ↔ SeparatesAt n s i ∧ ∀ j ∈ cuts, j < i → j + 4 ≤ i

/-- The pieces of a text from a place on, without the four characters at each cut. -/
def piecesFrom (s : List Char) (start : Nat) : List Nat → List (List Char)
  | [] => [s.drop start]
  | i :: cuts => (s.take i).drop start :: piecesFrom s (i + 4) cuts

def separatorsAt (s : List Char) (cuts : List Nat) : List (List Char) :=
  cuts.map fun i => (s.drop i).take 4

section Pieces

variable {s : List Char} {cuts : List Nat}

theorem length_piecesFrom (s : List Char) (start : Nat) (cuts : List Nat) :
    (piecesFrom s start cuts).length = cuts.length + 1 := by
  induction cuts generalizing start with
  | nil => rfl
  | cons i cuts ih => rw [piecesFrom, List.length_cons, ih, List.length_cons]

theorem piecesFrom_append (p s : List Char) (start : Nat) (cuts : List Nat) :
    piecesFrom (p ++ s) (p.length + start) (cuts.map (p.length + ·)) =
      piecesFrom s start cuts := by
  induction cuts generalizing start with
  | nil => rw [List.map_nil, piecesFrom, piecesFrom, List.drop_length_add_append]
  | cons i cuts ih =>
    rw [List.map_cons, piecesFrom, piecesFrom, List.take_length_add_append,
      List.drop_length_add_append, Nat.add_assoc, ih]

theorem piecesFrom_cons (a : Char) (s : List Char) (cuts : List Nat) :
    piecesFrom (a :: s) 0 (cuts.map (1 + ·)) = pushHead a (piecesFrom s 0 cuts) := by
  cases cuts with
  | nil => rfl
  | cons i cuts =>
    have hrest := piecesFrom_append [a] s (i + 4) cuts
    have hfirst : (a :: s).take (1 + i) = a :: s.take i := by rw [Nat.add_comm, List.take_succ_cons]
    rw [List.map_cons, piecesFrom, piecesFrom, hfirst, Nat.add_assoc]
    exact congrArg ((a :: s.take i) :: ·) hrest

theorem flatten_piecesFrom {start : Nat} (hin : ∀ i ∈ cuts, start ≤ i ∧ i + 4 ≤ s.length)
    (hapart : cuts.Pairwise fun i j => i + 4 ≤ j) :
    (List.zipWith (· ++ ·) (piecesFrom s start cuts) (separatorsAt s cuts ++ [[]])).flatten =
      s.drop start := by
  induction cuts generalizing start with
  | nil => simp [piecesFrom, separatorsAt]
  | cons i cuts ih =>
    rw [List.forall_mem_cons] at hin
    rw [List.pairwise_cons] at hapart
    have hrest := ih (fun j hj => ⟨hapart.1 j hj, (hin.2 j hj).2⟩) hapart.2
    have hcut : (s.drop i).take 4 ++ s.drop (i + 4) = s.drop i := by
      rw [← List.drop_drop, List.take_append_drop]
    have hpiece : (s.take i).drop start ++ s.drop i = s.drop start := by
      have hlength : start ≤ (s.take i).length := by
        rw [List.length_take]
        omega
      rw [← List.drop_append_of_le_length hlength, List.take_append_drop]
    show ((s.take i).drop start ++ (s.drop i).take 4) ++ (List.zipWith (· ++ ·)
      (piecesFrom s (i + 4) cuts) (separatorsAt s cuts ++ [[]])).flatten = s.drop start
    rw [hrest, List.append_assoc, hcut, hpiece]

end Pieces

section Cuts

variable {n : Nesting} {s : List Char} {cuts : List Nat}

theorem separatesAt_iff {i : Nat} : SeparatesAt n s i ↔ (n.after (s.take i)).isTop = true ∧
    eqIgnoringAsciiCase ((s.drop i).take 4) " or ".toList = true ∧ i + 4 < s.length := by
  rw [isTop_after]
  exact ⟨fun h => ⟨⟨h.closed, h.outside⟩, h.spelled, h.followed⟩,
    fun ⟨htop, hspelled, hfollowed⟩ => ⟨htop.1, htop.2, hspelled, hfollowed⟩⟩

theorem separatesAt_append (n : Nesting) (p s : List Char) (i : Nat) :
    SeparatesAt n (p ++ s) (p.length + i) ↔ SeparatesAt (n.after p) s i := by
  rw [separatesAt_iff, separatesAt_iff, List.take_length_add_append, after_append,
    List.drop_length_add_append, List.length_append, Nat.add_assoc, Nat.add_lt_add_iff_left]

theorem isOrSeparator_iff (a b c d : Char) :
    isOrSeparator a b c d = true ↔ eqIgnoringAsciiCase [a, b, c, d] " or ".toList = true := by
  have hblank (e : Char) : e.toLower = ' ' ↔ e = ' ' :=
    ⟨toLower_eq_of_le (by decide), fun h => by rw [h]; rfl⟩
  simp [isOrSeparator, eqIgnoringAsciiCase, hblank, and_assoc]

theorem separatesAt_zero_iff (a b c d e : Char) (r : List Char) :
    SeparatesAt n (a :: b :: c :: d :: e :: r) 0 ↔
      (n.isTop && isOrSeparator a b c d) = true := by
  rw [separatesAt_iff, Bool.and_eq_true, isOrSeparator_iff]
  simp [after]

/-- A separator nests nothing. -/
theorem after_separator {p : List Char} (h : eqIgnoringAsciiCase p " or ".toList = true)
    (n : Nesting) : n.after p = n := by
  refine after_of_plain (fun c hc hmem => ?_) n
  have hlower : c.toLower ∈ " or ".toList.map Char.toLower :=
    eq_of_beq h ▸ List.mem_map_of_mem hc
  have hnone : ∀ d ∈ ['\'', '(', ')'], d.toLower ∉ " or ".toList.map Char.toLower :=
    forall_mem_of_all (by decide)
  exact hnone c hmem hlower

theorem CutsAt.push {a : Char} (h : CutsAt (n.next a) s cuts) (hno : ¬ SeparatesAt n (a :: s) 0) :
    CutsAt n (a :: s) (cuts.map (1 + ·)) where
  apart := List.pairwise_map.2 (h.apart.imp fun hij => by omega)
  mem_iff i := by
    cases i with
    | zero => simp [hno]
    | succ i =>
      have hshift : SeparatesAt n (a :: s) (1 + i) ↔ SeparatesAt (n.next a) s i :=
        separatesAt_append n [a] s i
      have hmem : 1 + i ∈ cuts.map (1 + ·) ↔ i ∈ cuts := by simp
      rw [Nat.add_comm i 1, hmem, hshift, h.mem_iff, List.forall_mem_map]
      simp only [Nat.add_assoc, Nat.add_lt_add_iff_left, Nat.add_le_add_iff_left]

theorem CutsAt.cut {p : List Char} (h : CutsAt n s cuts) (hp : p.length = 4)
    (hsep : SeparatesAt n (p ++ s) 0) : CutsAt n (p ++ s) (0 :: cuts.map (4 + ·)) where
  apart := by
    refine .cons (fun j hj => ?_) (List.pairwise_map.2 (h.apart.imp fun hij => by omega))
    obtain ⟨i, -, rfl⟩ := List.mem_map.1 hj
    omega
  mem_iff i := by
    rcases Nat.lt_or_ge i 4 with hi | hi
    · rcases Nat.eq_zero_or_pos i with rfl | hpos
      · exact iff_of_true List.mem_cons_self ⟨hsep, fun j _ hj => absurd hj (Nat.not_lt_zero j)⟩
      · -- The place lies within the first separator.
        refine iff_of_false (fun hmem => ?_) fun hfree => ?_
        · rcases List.mem_cons.1 hmem with rfl | hmem
          · exact absurd hpos (Nat.lt_irrefl 0)
          · obtain ⟨j, -, rfl⟩ := List.mem_map.1 hmem
            omega
        · have hbehind := hfree.2 0 List.mem_cons_self hpos
          omega
    · obtain ⟨k, rfl⟩ := Nat.exists_eq_add_of_le hi
      have hspelled : eqIgnoringAsciiCase p " or ".toList = true := by
        have hfirst := hsep.spelled
        rwa [List.drop_zero, List.take_left' hp] at hfirst
      have hshift : SeparatesAt n (p ++ s) (4 + k) ↔ SeparatesAt n s k := by
        rw [← hp, separatesAt_append, after_separator hspelled]
      have hmem : 4 + k ∈ 0 :: cuts.map (4 + ·) ↔ k ∈ cuts := by simp
      rw [hmem, hshift, h.mem_iff, List.forall_mem_cons, List.forall_mem_map]
      simp [Nat.add_assoc]

end Cuts

theorem exists_cuts (n : Nesting) (s : List Char) :
    ∃ cuts, CutsAt n s cuts ∧ alternatives n s = piecesFrom s 0 cuts := by
  fun_induction alternatives n s with
  | case1 n a b c d e r h ih =>
    obtain ⟨cuts, hcuts, hpieces⟩ := ih
    have hsep := (separatesAt_zero_iff a b c d e r).2 h
    refine ⟨0 :: cuts.map (4 + ·), hcuts.cut (p := [a, b, c, d]) rfl hsep, ?_⟩
    rw [hpieces, piecesFrom]
    exact congrArg _ (piecesFrom_append [a, b, c, d] (e :: r) 0 cuts).symm
  | case2 n a b c d e r h ih =>
    obtain ⟨cuts, hcuts, hpieces⟩ := ih
    refine ⟨cuts.map (1 + ·), hcuts.push (mt (separatesAt_zero_iff a b c d e r).1 h), ?_⟩
    rw [hpieces, piecesFrom_cons]
  | case3 n a r hshort ih =>
    obtain ⟨cuts, hcuts, hpieces⟩ := ih
    refine ⟨cuts.map (1 + ·), hcuts.push fun hsep => ?_, ?_⟩
    · have hlength := hsep.followed
      rcases r with _ | ⟨b, _ | ⟨c, _ | ⟨d, _ | ⟨e, r⟩⟩⟩⟩
      case cons.cons.cons.cons => exact hshort b c d e r rfl
      all_goals simp at hlength
    · rw [hpieces, piecesFrom_cons]
  | case4 n =>
    have hnone (i : Nat) : ¬ SeparatesAt n [] i := fun hsep => absurd hsep.followed (by simp)
    exact ⟨[], ⟨.nil, fun i => iff_of_false List.not_mem_nil fun h => hnone i h.1⟩, rfl⟩

/-- A text is cut at the separators of its top level, and is its pieces with these between them. -/
theorem alternatives_cut (s : List Char) : ∃ cuts, CutsAt .start s cuts ∧
    alternatives .start s = piecesFrom s 0 cuts ∧
    (alternatives .start s).length = cuts.length + 1 ∧
    (List.zipWith (· ++ ·) (alternatives .start s) (separatorsAt s cuts ++ [[]])).flatten = s := by
  obtain ⟨cuts, hcuts, hpieces⟩ := exists_cuts .start s
  have hin : ∀ i ∈ cuts, 0 ≤ i ∧ i + 4 ≤ s.length :=
    fun i hi => ⟨Nat.zero_le i, Nat.le_of_lt ((hcuts.mem_iff i).1 hi).1.followed⟩
  refine ⟨cuts, hcuts, hpieces, ?_, ?_⟩
  · rw [hpieces, length_piecesFrom]
  · rw [hpieces, flatten_piecesFrom hin hcuts.apart, List.drop_zero]

/-- Two separators with a blank in common are one. -/
example : alternatives .start "a or or b".toList = ["a".toList, "or b".toList] := by decide

end ZodCatalog.Check
