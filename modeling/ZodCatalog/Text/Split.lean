/-!
Cutting a text at every character of a class, and putting pieces together. Main statements: the
pieces joined by one separator give the text back, no piece holds a separator, and pieces without
separators that are joined are cut into the same pieces again.
-/

namespace ZodCatalog.Text

/-- Puts a character in front of the first piece. -/
def pushHead (c : Char) : List (List Char) → List (List Char)
  | [] => [[c]]
  | piece :: pieces => (c :: piece) :: pieces

/-- The pieces between the characters that satisfy `p`, empty ones included. -/
def splitWhere (p : Char → Bool) : List Char → List (List Char)
  | [] => [[]]
  | c :: r => if p c then [] :: splitWhere p r else pushHead c (splitWhere p r)

def splitOnChar (sep : Char) (s : List Char) : List (List Char) := splitWhere (· == sep) s

/-- The pieces in order with `sep` between neighbours. -/
def joinWith (sep : List Char) : List (List Char) → List Char
  | [] => []
  | [piece] => piece
  | piece :: pieces => piece ++ sep ++ joinWith sep pieces

/-- The texts before and after the first character that satisfies `p`. -/
def cutFirst (p : Char → Bool) : List Char → Option (List Char × List Char)
  | [] => none
  | c :: r => if p c then some ([], r) else (cutFirst p r).map fun (l, t) => (c :: l, t)

/-- The texts before and after the last character that satisfies `p`. -/
def cutLast (p : Char → Bool) (s : List Char) : Option (List Char × List Char) :=
  (cutFirst p s.reverse).map fun (l, t) => (t.reverse, l.reverse)

/-- The rest of a text after `lead`, if it starts so. -/
def after? (lead : List Char) (s : List Char) : Option (List Char) :=
  if lead.isPrefixOf s then some (s.drop lead.length) else none

/-- The texts before and after the first occurrence of `sep`. -/
def cutAround? (sep : List Char) : List Char → Option (List Char × List Char)
  | [] => if sep.isEmpty then some ([], []) else none
  | c :: r =>
    match after? sep (c :: r) with
    | some t => some ([], t)
    | none => (cutAround? sep r).map fun (l, t) => (c :: l, t)

/-- The text before `tail`, if it ends so. -/
def before? (tail : List Char) (s : List Char) : Option (List Char) :=
  if tail.isSuffixOf s then some (s.take (s.length - tail.length)) else none

/-- Puts `replacement` in place of each pair `first second`, from the left. -/
def replacePair (first second : Char) (replacement : List Char) : List Char → List Char
  | [] => []
  | [c] => [c]
  | c :: d :: r =>
    if c == first && d == second then
      replacement ++ replacePair first second replacement r
    else c :: replacePair first second replacement (d :: r)

theorem splitWhere_ne_nil (p : Char → Bool) (s : List Char) : splitWhere p s ≠ [] := by
  induction s with
  | nil => simp [splitWhere]
  | cons c r ih =>
    unfold splitWhere
    split
    · simp
    · cases h : splitWhere p r <;> simp [pushHead]

theorem joinWith_pushHead {sep : List Char} {c : Char} {pieces : List (List Char)}
    (h : pieces ≠ []) : joinWith sep (pushHead c pieces) = c :: joinWith sep pieces := by
  match pieces, h with
  | [_], _ => rfl
  | _ :: _ :: _, _ => simp [pushHead, joinWith]

theorem joinWith_nil_cons {sep : List Char} {pieces : List (List Char)} (h : pieces ≠ []) :
    joinWith sep ([] :: pieces) = sep ++ joinWith sep pieces := by
  match pieces, h with
  | _ :: _, _ => simp [joinWith]

theorem mem_joinWith {c : Char} {sep : List Char} {pieces : List (List Char)}
    (h : c ∈ joinWith sep pieces) : c ∈ sep ∨ ∃ piece ∈ pieces, c ∈ piece := by
  fun_induction joinWith sep pieces with
  | case1 => contradiction
  | case2 piece => exact .inr ⟨piece, List.mem_singleton_self _, h⟩
  | case3 piece pieces _ ih =>
    rcases List.mem_append.1 h with h | h
    · rcases List.mem_append.1 h with h | h
      · exact .inr ⟨piece, List.mem_cons_self, h⟩
      · exact .inl h
    · rcases ih h with h | ⟨piece', hpiece, h⟩
      · exact .inl h
      · exact .inr ⟨piece', List.mem_cons_of_mem _ hpiece, h⟩

theorem joinWith_splitOnChar (sep : Char) (s : List Char) :
    joinWith [sep] (splitOnChar sep s) = s := by
  induction s with
  | nil => rfl
  | cons c r ih =>
    have hne := splitWhere_ne_nil (· == sep) r
    rw [splitOnChar] at ih ⊢
    rw [splitWhere]
    by_cases hc : c = sep
    · rw [if_pos (by simpa using hc), joinWith_nil_cons hne, ih, hc]
      rfl
    · rw [if_neg (by simpa using hc), joinWith_pushHead hne, ih]

theorem not_mem_of_mem_splitWhere {p : Char → Bool} {s : List Char} {piece : List Char}
    (h : piece ∈ splitWhere p s) : ∀ c ∈ piece, p c = false := by
  induction s generalizing piece with
  | nil => simp_all [splitWhere]
  | cons c r ih =>
    unfold splitWhere at h
    split at h
    · rcases List.mem_cons.1 h with rfl | h
      · simp
      · exact ih h
    · rename_i hc
      match hr : splitWhere p r with
      | [] => exact absurd hr (splitWhere_ne_nil p r)
      | first :: others =>
        rw [hr, pushHead] at h
        rw [hr] at ih
        rcases List.mem_cons.1 h with rfl | h
        · intro d hd
          rcases List.mem_cons.1 hd with rfl | hd
          · simpa using hc
          · exact ih List.mem_cons_self d hd
        · exact ih (List.mem_cons_of_mem _ h)

theorem pushHead_append {pieces : List (List Char)} (h : pieces ≠ []) (c : Char)
    (more : List (List Char)) : pushHead c (pieces ++ more) = pushHead c pieces ++ more := by
  cases pieces with
  | nil => contradiction
  | cons piece pieces => rfl

theorem splitWhere_append_cons {p : Char → Bool} {sep : Char} (hsep : p sep = true)
    (s t : List Char) : splitWhere p (s ++ sep :: t) = splitWhere p s ++ splitWhere p t := by
  induction s with
  | nil => simp [splitWhere, hsep]
  | cons c r ih =>
    rw [List.cons_append, splitWhere, splitWhere, ih]
    split
    · rfl
    · exact pushHead_append (splitWhere_ne_nil p r) c _

theorem splitWhere_of_none {p : Char → Bool} {s : List Char} (h : ∀ c ∈ s, p c = false) :
    splitWhere p s = [s] := by
  induction s with
  | nil => rfl
  | cons c r ih =>
    have hrest := ih fun d hd => h d (List.mem_cons_of_mem _ hd)
    rw [splitWhere, h c List.mem_cons_self, hrest]
    rfl

theorem beq_eq_false_of_not_mem {c : Char} {s : List Char} (h : c ∉ s) :
    ∀ d ∈ s, (d == c) = false := by
  intro d hd
  have hne : d ≠ c := fun heq => h (heq ▸ hd)
  simpa using hne

theorem splitOnChar_joinWith {sep : Char} {pieces : List (List Char)} (hpieces : pieces ≠ [])
    (h : ∀ piece ∈ pieces, sep ∉ piece) : splitOnChar sep (joinWith [sep] pieces) = pieces := by
  induction pieces with
  | nil => contradiction
  | cons piece pieces ih =>
    have hnone := beq_eq_false_of_not_mem (h piece List.mem_cons_self)
    cases pieces with
    | nil => exact splitWhere_of_none hnone
    | cons next pieces =>
      have hjoin : joinWith [sep] (piece :: next :: pieces) =
          piece ++ sep :: joinWith [sep] (next :: pieces) := by simp [joinWith]
      have hrest := ih (List.cons_ne_nil next pieces) fun q hq => h q (List.mem_cons_of_mem _ hq)
      rw [splitOnChar] at hrest
      rw [hjoin, splitOnChar, splitWhere_append_cons (p := (· == sep)) (beq_self_eq_true sep),
        splitWhere_of_none hnone, hrest]
      rfl

theorem cutFirst_of_none {p : Char → Bool} {s : List Char} (h : ∀ c ∈ s, p c = false) :
    cutFirst p s = none := by
  induction s with
  | nil => rfl
  | cons c r ih =>
    rw [cutFirst, h c List.mem_cons_self, ih fun d hd => h d (List.mem_cons_of_mem _ hd)]
    rfl

theorem cutFirst_append {p : Char → Bool} {s : List Char} {c : Char}
    (h : ∀ d ∈ s, p d = false) (hc : p c = true) (t : List Char) :
    cutFirst p (s ++ c :: t) = some (s, t) := by
  induction s with
  | nil => simp [cutFirst, hc]
  | cons d s ih =>
    have hrest := ih fun e he => h e (List.mem_cons_of_mem _ he)
    rw [List.cons_append, cutFirst, h d List.mem_cons_self, hrest]
    rfl

theorem cutLast_append {p : Char → Bool} {t : List Char} {c : Char}
    (h : ∀ d ∈ t, p d = false) (hc : p c = true) (s : List Char) :
    cutLast p (s ++ c :: t) = some (s, t) := by
  have hreverse : (s ++ c :: t).reverse = t.reverse ++ c :: s.reverse := by simp
  have hrest : ∀ d ∈ t.reverse, p d = false := fun d hd => h d (List.mem_reverse.1 hd)
  rw [cutLast, hreverse, cutFirst_append hrest hc]
  simp

end ZodCatalog.Text
