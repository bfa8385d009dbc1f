import ZodCatalog.Proofs.FileNames

/-! Identifiers over any alphabet that agrees with others on ASCII. The cased forms of a name start
with the upper form of its first letter or digit, and in ASCII they hold letters and digits only. -/

namespace ZodCatalog

namespace Text

/-- What a language takes for letters and digits. All agree on ASCII. -/
structure Alphabet where
  letter : Char → Bool
  digit : Char → Bool
  letter_ascii : ∀ c, isAscii c = true → letter c = c.isAlpha
  digit_ascii : ∀ c, isAscii c = true → digit c = c.isDigit

namespace Alphabet

/-- The alphabet of ASCII alone. -/
def ascii : Alphabet where
  letter c := isAscii c && c.isAlpha
  digit c := isAscii c && c.isDigit
  letter_ascii c hc := by rw [hc, Bool.true_and]
  digit_ascii c hc := by rw [hc, Bool.true_and]

variable (A : Alphabet)

def isStart (c : Char) : Bool := A.letter c || c == '_' || c == '$'

def isPart (c : Char) : Bool := A.isStart c || A.digit c

/-- Texts of the characters that identifiers can have behind the first. -/
def Spells (s : List Char) : Prop := ∀ c ∈ s, A.isPart c = true

def IsIdentifier (s : List Char) : Prop :=
  ∃ c r, s = c :: r ∧ A.isStart c = true ∧ A.Spells r

/-- Whether the upper form of a character can start an identifier. -/
def Opens (c : Char) : Prop := ∀ d ∈ (upperChar c).head?, A.isStart d = true

section Spelling

variable {A} {s t : List Char} {c : Char}

theorem isPart_of_isStart (h : A.isStart c = true) : A.isPart c = true := by
  rw [isPart, h, Bool.true_or]

theorem isAscii_of_isAlpha (h : c.isAlpha = true) : isAscii c = true := by
  have hlow : c.toNat < 0x80 := by
    rcases Bool.or_eq_true_iff.1 h with h | h
    · have hrange : c.val ≤ 90 := (of_decide_eq_true h).2
      exact Nat.lt_of_le_of_lt (UInt32.le_iff_toNat_le.1 hrange) (by decide)
    · have hrange := isLower_iff.1 h
      omega
  rw [isAscii, decide_eq_true hlow]

theorem isStart_of_isAlpha (h : c.isAlpha = true) : A.isStart c = true := by
  rw [isStart, A.letter_ascii c (isAscii_of_isAlpha h), h]
  rfl

theorem spells_append : A.Spells (s ++ t) ↔ A.Spells s ∧ A.Spells t := List.forall_mem_append

theorem spells_of_isAlpha (h : ∀ c ∈ s, c.isAlpha = true) : A.Spells s :=
  fun c hc => isPart_of_isStart (isStart_of_isAlpha (h c hc))

theorem isIdentifier_iff : A.IsIdentifier s ↔
    (∃ c, s.head? = some c ∧ A.isStart c = true) ∧ A.Spells s := by
  cases s with
  | nil => simp [IsIdentifier]
  | cons c r =>
    constructor
    · rintro ⟨d, t, heq, hstart, hrest⟩
      obtain ⟨rfl, rfl⟩ := List.cons.inj heq
      exact ⟨⟨c, rfl, hstart⟩, List.forall_mem_cons.2 ⟨isPart_of_isStart hstart, hrest⟩⟩
    · rintro ⟨⟨d, hd, hstart⟩, hall⟩
      obtain rfl := Option.some.inj hd
      exact ⟨c, r, rfl, hstart, fun e he => hall e (List.mem_cons_of_mem _ he)⟩

/-- A word in front leaves only the rest to spell. -/
theorem isIdentifier_append (hs : s ≠ []) (h : ∀ c ∈ s, c.isAlpha = true) :
    A.IsIdentifier (s ++ t) ↔ A.Spells t := by
  obtain ⟨c, r, rfl⟩ := List.exists_cons_of_ne_nil hs
  have hstart : A.isStart c = true := isStart_of_isAlpha (h c List.mem_cons_self)
  rw [isIdentifier_iff, spells_append, and_iff_right (spells_of_isAlpha h)]
  exact and_iff_right ⟨c, rfl, hstart⟩

/-- A word behind leaves the start of the rest, if there is one. -/
theorem isIdentifier_append_letters (ht : t ≠ []) (h : ∀ c ∈ t, c.isAlpha = true) :
    A.IsIdentifier (s ++ t) ↔ (∀ c, s.head? = some c → A.isStart c = true) ∧ A.Spells s := by
  rw [isIdentifier_iff, spells_append, and_iff_left (spells_of_isAlpha h)]
  cases s with
  | nil =>
    obtain ⟨c, r, rfl⟩ := List.exists_cons_of_ne_nil ht
    have hstart : A.isStart c = true := isStart_of_isAlpha (h c List.mem_cons_self)
    simp [hstart]
  | cons c r => simp

theorem spells_joinWith {sep : Char} (hsep : A.isPart sep = true) {ws : List (List Char)} :
    A.Spells (joinWith [sep] ws) ↔ ∀ w ∈ ws, A.Spells w := by
  induction ws with
  | nil => simp [joinWith, Spells]
  | cons w ws ih =>
    cases ws with
    | nil => simp [joinWith]
    | cons v ws =>
      have hjoin : joinWith [sep] (w :: v :: ws) = w ++ [sep] ++ joinWith [sep] (v :: ws) := rfl
      have hone : A.Spells [sep] := List.forall_mem_singleton.2 hsep
      rw [hjoin, spells_append, spells_append, ih, and_iff_left hone]
      exact List.forall_mem_cons.symm

end Spelling

end Alphabet

/-- The first letter or digit. -/
def leading (s : List Char) : Option Char := s.find? isAlphanumeric

theorem exists_mem_words_iff {s : List Char} {c : Char} :
    (∃ w ∈ words s, c ∈ w) ↔ c ∈ s ∧ isAlphanumeric c = true := by
  rw [← List.mem_flatten, flatten_words, List.mem_filter]

theorem words_cases (s : List Char) : leading s = none ∧ words s = [] ∨
    ∃ c r ws, leading s = some c ∧ words s = (c :: r) :: ws := by
  have hflat := flatten_words s
  cases hwords : words s with
  | nil =>
    rw [hwords] at hflat
    refine .inl ⟨List.find?_eq_none.2 fun c hc halnum => ?_, rfl⟩
    exact List.not_mem_nil (hflat ▸ List.mem_filter.2 ⟨hc, halnum⟩)
  | cons w ws =>
    have hw : w ≠ [] := ne_nil_of_mem_words (s := s) (hwords ▸ List.mem_cons_self)
    obtain ⟨c, r, rfl⟩ := List.exists_cons_of_ne_nil hw
    rw [hwords] at hflat
    refine .inr ⟨c, r, ws, ?_, rfl⟩
    rw [leading, ← List.head?_filter, ← hflat]
    rfl

theorem head?_append_upperChar (c : Char) (s : List Char) :
    (upperChar c ++ s).head? = (upperChar c).head? := by
  obtain ⟨d, r, hd⟩ := List.exists_cons_of_ne_nil (upperChar_ne_nil c)
  rw [hd]
  rfl

theorem head?_pascal (s : List Char) :
    (Casing.pascal.onChars s).head? = (leading s).bind fun c => (upperChar c).head? := by
  unfold Casing.onChars
  rcases words_cases s with ⟨hnone, hwords⟩ | ⟨c, r, ws, hsome, hwords⟩
  · rw [hnone, hwords]
    rfl
  · rw [hsome, hwords, List.flatMap_cons, capitalWord, List.append_assoc]
    exact head?_append_upperChar c _

theorem head?_shouting (s : List Char) :
    (shouting s).head? = (leading s).bind fun c => (upperChar c).head? := by
  unfold shouting
  rcases words_cases s with ⟨hnone, hwords⟩ | ⟨c, r, ws, hsome, hwords⟩
  · rw [hnone, hwords]
    rfl
  · have hupper : upperWord (c :: r) = upperChar c ++ upper r := rfl
    rw [hsome, hwords, List.map_cons, joinWith_cons_eq, hupper, List.append_assoc]
    exact head?_append_upperChar c _

theorem leading_append (s t : List Char) : leading (s ++ t) = (leading s).or (leading t) :=
  List.find?_append

theorem leading_append_low (s t : List Char) : leading (s ++ '_' :: t) = leading (s ++ t) := by
  have hlow : leading ('_' :: t) = leading t := List.find?_cons_of_neg (by decide)
  rw [leading_append, leading_append, hlow]

/-- A form that starts as the upper form of a first letter or digit. -/
theorem Alphabet.starts_iff {A : Alphabet} {s form : List Char}
    (h : form.head? = (leading s).bind fun c => (upperChar c).head?) :
    ((∃ d, form.head? = some d ∧ A.isStart d = true) ↔ ∃ c, leading s = some c ∧ A.Opens c) ∧
      ((∀ d, form.head? = some d → A.isStart d = true) ↔ ∀ c, leading s = some c → A.Opens c) := by
  rw [h]
  cases leading s with
  | none => simp
  | some c =>
    obtain ⟨d, r, hd⟩ := List.exists_cons_of_ne_nil (upperChar_ne_nil c)
    simp [Opens, hd]

theorem Alphabet.spells_shouting {A : Alphabet} {s : List Char} : A.Spells (shouting s) ↔
    ∀ c ∈ s, isAlphanumeric c = true → A.Spells (upperChar c) := by
  have hlow : A.isPart '_' = true := by simp [isPart, isStart]
  rw [shouting, spells_joinWith hlow]
  constructor
  · intro h c hc halnum
    obtain ⟨w, hw, hc⟩ := exists_mem_words_iff.2 ⟨hc, halnum⟩
    exact fun d hd => h _ (List.mem_map_of_mem hw) d (List.mem_flatMap.2 ⟨c, hc, hd⟩)
  · intro h w hw d hd
    obtain ⟨v, hv, rfl⟩ := List.mem_map.1 hw
    obtain ⟨c, hc, hd⟩ := List.mem_flatMap.1 hd
    obtain ⟨hcs, halnum⟩ := exists_mem_words_iff.1 ⟨v, hv, hc⟩
    exact h c hcs halnum d hd

theorem isAlpha_of_isLower {c : Char} (h : c.isLower = true) : c.isAlpha = true := by
  have hcases : c.isAlpha = (c.isUpper || c.isLower) := rfl
  rw [hcases, h, Bool.or_true]

theorem alpha_char {c : Char} (h : c.isAlpha = true) :
    isAlphanumeric c = true ∧ (upperChar c).all Char.isAlpha = true := by
  have hascii := Alphabet.isAscii_of_isAlpha h
  rw [isAscii, decide_eq_true_eq] at hascii
  refine forall_ascii (p := fun c => c.isAlpha = true →
    isAlphanumeric c = true ∧ (upperChar c).all Char.isAlpha = true) ?_ hascii h
  decide +kernel

/-- Only the sign for a small `k` has a letter of ASCII for a lower form without being one. -/
theorem isAlpha_of_lowerChar {c : Char} (h : ∀ d ∈ lowerChar c, d.isLower = true ∧ d ≠ 'k') :
    c.isAlpha = true := by
  unfold lowerChar at h
  split at h
  · rename_i hascii
    rw [isAscii, decide_eq_true_eq] at hascii
    refine forall_ascii (p := fun c => c.toLower.isLower = true → c.isAlpha = true) ?_ hascii
      (h _ List.mem_cons_self).1
    decide +kernel
  split at h
  · exact absurd (h '\u0307' (by simp)).1 (by decide)
  · rename_i hascii _
    obtain ⟨hlow, hk⟩ := h _ List.mem_cons_self
    rcases shifted_lowering (Bool.eq_false_iff.2 hascii) with hsign | ⟨habove, -⟩
    · exact absurd hsign hk
    · rw [Alphabet.isAscii_of_isAlpha (isAlpha_of_isLower hlow)] at habove
      contradiction

theorem isAlpha_of_lower {w : List Char} (h : ∀ d ∈ lower w, d.isLower = true ∧ d ≠ 'k') :
    ∀ c ∈ w, c.isAlpha = true := fun c hc =>
  isAlpha_of_lowerChar fun d hd => h d (List.mem_flatMap.2 ⟨c, hc, hd⟩)

theorem ascii_char {c : Char} (hc : isAscii c = true) (halnum : isAlphanumeric c = true) :
    upperChar c = [c.toUpper] ∧ lowerChar c = [c.toLower] ∧
      (isAscii c.toUpper = true ∧ c.toUpper.isAlpha = !c.isDigit ∧ c.toUpper ≠ '_' ∧
        c.toUpper ≠ '$' ∧ c.toUpper.isAlphanum = true) ∧
      isAscii c.toLower = true ∧ c.toLower.isAlphanum = true := by
  refine forall_ascii (p := fun c => isAlphanumeric c = true →
    upperChar c = [c.toUpper] ∧ lowerChar c = [c.toLower] ∧
      (isAscii c.toUpper = true ∧ c.toUpper.isAlpha = !c.isDigit ∧ c.toUpper ≠ '_' ∧
        c.toUpper ≠ '$' ∧ c.toUpper.isAlphanum = true) ∧
      isAscii c.toLower = true ∧ c.toLower.isAlphanum = true) ?_ (by simpa [isAscii] using hc)
    halnum
  decide +kernel

section Ascii

variable {A : Alphabet} {s : List Char} {c : Char}

theorem Alphabet.isPart_of_isAlphanum (hc : isAscii c = true) (h : c.isAlphanum = true) :
    A.isPart c = true := by
  rcases Bool.or_eq_true_iff.1 h with h | h
  · exact isPart_of_isStart (isStart_of_isAlpha h)
  · rw [isPart, A.digit_ascii c hc, h, Bool.or_true]

/-- In ASCII just the digits are letters or digits that start no identifier. -/
theorem Alphabet.opens_ascii (hc : isAscii c = true) (halnum : isAlphanumeric c = true) :
    A.Opens c ↔ c.isDigit = false := by
  obtain ⟨hupper, -, ⟨hascii, halpha, hlow, hdollar, -⟩, -⟩ := ascii_char hc halnum
  have hstart : A.isStart c.toUpper = !c.isDigit := by
    rw [isStart, A.letter_ascii _ hascii, halpha, beq_false_of_ne hlow, beq_false_of_ne hdollar,
      Bool.or_false, Bool.or_false]
  simp [Opens, hupper, hstart]

theorem Alphabet.spells_ascii (hs : ∀ c ∈ s, isAscii c = true) :
    A.Spells (Casing.pascal.onChars s) ∧ A.Spells (shouting s) := by
  have hchar : ∀ c ∈ s, isAlphanumeric c = true →
      A.Spells (upperChar c) ∧ A.Spells (lowerChar c) := by
    intro c hc halnum
    obtain ⟨hupper, hlower, hup, hlow⟩ := ascii_char (hs c hc) halnum
    rw [hupper, hlower]
    exact ⟨List.forall_mem_singleton.2 (isPart_of_isAlphanum hup.1 hup.2.2.2.2),
      List.forall_mem_singleton.2 (isPart_of_isAlphanum hlow.1 hlow.2)⟩
  refine ⟨fun d hd => ?_, spells_shouting.2 fun c hc halnum => (hchar c hc halnum).1⟩
  obtain ⟨w, hw, hd⟩ := List.mem_flatMap.1 hd
  have hword : ∀ c ∈ w, c ∈ s ∧ isAlphanumeric c = true :=
    fun c hc => exists_mem_words_iff.1 ⟨w, hw, hc⟩
  cases w with
  | nil => exact absurd hd List.not_mem_nil
  | cons c r =>
    rw [List.forall_mem_cons] at hword
    rcases List.mem_append.1 hd with hd | hd
    · exact (hchar c hword.1.1 hword.1.2).1 d hd
    · refine forall_mem_lowerWord (P := (A.isPart · = true)) (fun hsigma => ?_) (fun e he => ?_)
        d hd
      · exact absurd (hs _ (hword.2 _ hsigma).1) (by decide)
      · exact (hchar e (hword.2 e he).1 (hword.2 e he).2).2

end Ascii

end Text

end ZodCatalog
