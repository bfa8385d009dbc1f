/-!
A stable sort by insertion. Main statements: the result is a permutation of the list; it is in
order when the relation is total and transitive, and tied elements keep the order they had.
-/

namespace ZodCatalog

/-- Puts `x` in front of the first element that does not precede it strictly. -/
def insertSorted {α : Type} (le : α → α → Bool) (x : α) : List α → List α
  | [] => [x]
  | y :: ys => if le x y then x :: y :: ys else y :: insertSorted le x ys

/-- Sorts by `le`; elements that precede each other keep their order. -/
def stableSort {α : Type} (le : α → α → Bool) : List α → List α
  | [] => []
  | x :: xs => insertSorted le x (stableSort le xs)

section

variable {α : Type} {le : α → α → Bool}

theorem insertSorted_perm (x : α) (xs : List α) : (insertSorted le x xs).Perm (x :: xs) := by
  induction xs with
  | nil => exact .refl _
  | cons y ys ih =>
    unfold insertSorted
    split
    · exact .refl _
    · exact (ih.cons y).trans (.swap x y ys)

theorem stableSort_perm (xs : List α) : (stableSort le xs).Perm xs := by
  induction xs with
  | nil => exact .refl _
  | cons x xs ih => exact (insertSorted_perm x _).trans (ih.cons x)

/-- Elements any two of which are tied come out as they went in. -/
theorem filter_stableSort {p : α → Bool}
    (tied : ∀ x y, p x = true → p y = true → le x y = true) (xs : List α) :
    (stableSort le xs).filter p = xs.filter p := by
  have hinsert (x : α) (ys : List α) : (insertSorted le x ys).filter p = (x :: ys).filter p := by
    induction ys with
    | nil => rfl
    | cons y ys ih =>
      unfold insertSorted
      split
      · rfl
      · rename_i hxy
        -- `x` passes over `y`, so they are not both of the tied ones.
        have hone : p x = false ∨ p y = false := by
          cases hx : p x with
          | false => exact .inl rfl
          | true =>
            cases hy : p y with
            | false => exact .inr rfl
            | true => exact absurd (tied x y hx hy) hxy
        rw [List.filter_cons, ih]
        rcases hone with h | h <;> simp [List.filter_cons, h]
  induction xs with
  | nil => rfl
  | cons x xs ih =>
    rw [stableSort, hinsert, List.filter_cons, List.filter_cons, ih]

variable (total : ∀ x y, le x y = true ∨ le y x = true)
  (trans : ∀ x y z, le x y = true → le y z = true → le x z = true)

include total trans

/-- A relation that orders the list orders the tied elements of the sorted one. -/
theorem insertSorted_pairwise {R : α → α → Prop} (x : α) {xs : List α} (hx : ∀ y ∈ xs, R x y)
    (h : xs.Pairwise fun a b => le a b = true ∧ (le b a = true → R a b)) :
    (insertSorted le x xs).Pairwise fun a b => le a b = true ∧ (le b a = true → R a b) := by
  induction xs with
  | nil => simp [insertSorted]
  | cons y ys ih =>
    unfold insertSorted
    rw [List.pairwise_cons] at h
    split
    · rename_i hxy
      refine List.pairwise_cons.2 ⟨fun z hz => ⟨?_, fun _ => hx z hz⟩, List.pairwise_cons.2 h⟩
      rcases List.mem_cons.1 hz with rfl | hz
      · exact hxy
      · exact trans x y z hxy (h.1 z hz).1
    · rename_i hxy
      refine List.pairwise_cons.2
        ⟨fun z hz => ?_, ih (fun z hz => hx z (List.mem_cons_of_mem _ hz)) h.2⟩
      rcases List.mem_cons.1 ((insertSorted_perm x ys).mem_iff.1 hz) with rfl | hz
      · exact ⟨(total z y).resolve_left hxy, fun hle => absurd hle hxy⟩
      · exact h.1 z hz

theorem stableSort_pairwise_tied {R : α → α → Prop} {xs : List α} (h : xs.Pairwise R) :
    (stableSort le xs).Pairwise fun a b => le a b = true ∧ (le b a = true → R a b) := by
  induction xs with
  | nil => exact .nil
  | cons x xs ih =>
    rw [List.pairwise_cons] at h
    have hx : ∀ y ∈ stableSort le xs, R x y := fun y hy =>
      h.1 y ((stableSort_perm xs).mem_iff.1 hy)
    exact insertSorted_pairwise total trans x hx (ih h.2)

theorem stableSort_pairwise (xs : List α) :
    (stableSort le xs).Pairwise (fun a b => le a b = true) :=
  (stableSort_pairwise_tied total trans (R := fun _ _ => True)
    (List.pairwise_of_forall fun _ _ => trivial)).imp And.left

end

end ZodCatalog
