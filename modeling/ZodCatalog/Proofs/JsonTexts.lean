import Mathlib.Data.List.Basic
import ZodCatalog.Document.Json
import ZodCatalog.Document.JsonReader

/-! Tokens of JSON read back: texts with their escapes, integers, and the three words that stand for
themselves. -/

namespace ZodCatalog.Document

namespace Json

section Texts

theorem unit?_control :
    ∀ n < 32, unit? '0' '0' (hexDigit (n / 16)) (hexDigit (n % 16)) = some n := by
  decide

/-- What a character is written as reads as that character. -/
theorem readText_escapeChar (c : Char) (s : List Char) :
    readText none (escapeChar c ++ s) = pushChar c (readText none s) := by
  unfold escapeChar
  by_cases hquote : c = '"'
  · subst hquote
    rfl
  by_cases hslash : c = '\\'
  · subst hslash
    rfl
  rw [if_neg hquote, if_neg hslash]
  -- The five escapes by a letter, then those by a number, then what stands for itself.
  iterate 5
    split
    · subst c
      rfl
  split
  · rename_i hcontrol
    have hhigh : isHigh c.toNat = false := by
      rw [isHigh, Bool.and_eq_false_iff]
      exact .inl (decide_eq_false (by omega))
    have hlow : isLow c.toNat = false := by
      rw [isLow, Bool.and_eq_false_iff]
      exact .inl (decide_eq_false (by omega))
    simp only [List.cons_append, List.nil_append, readText, unit?_control _ hcontrol,
      Option.bind_eq_bind, Option.bind_some, hhigh, hlow, Bool.false_eq_true, if_false,
      Char.ofNat_toNat]
  · rename_i hplain
    rw [List.singleton_append, readText]
    · rw [if_neg hplain]
    · exact hquote
    · exact fun _ _ _ _ _ h => absurd h hslash
    · exact fun _ _ h => absurd h hslash

theorem readText_escaped (text rest : List Char) :
    readText none (text.flatMap escapeChar ++ '"' :: rest) = some (text, rest) := by
  induction text with
  | nil => rfl
  | cons c text ih =>
    rw [List.flatMap_cons, List.append_assoc, readText_escapeChar, ih]
    rfl

end Texts

section Words

theorem head?_toDigits {n : Nat} (h : n ≠ 0) : (Nat.toDigits 10 n).head? ≠ some '0' := by
  induction n using Nat.strongRecOn with
  | ind n ih =>
    by_cases hsmall : n < 10
    · have hdigit : ∀ m < 10, m ≠ 0 → ¬ some (Nat.digitChar m) = some '0' := by decide
      rw [Nat.toDigits_of_lt_base hsmall]
      exact hdigit n hsmall h
    · have hfront : n / 10 ≠ 0 := by omega
      rw [Nat.toDigits_of_base_le (by decide) (by omega),
        List.head?_append_of_ne_nil _ Nat.toDigits_ne_nil]
      exact ih (n / 10) (by omega) hfront

theorem whole?_toDigits (n : Nat) : whole? (Nat.toDigits 10 n) = some n := by
  have hdigits : (Nat.toDigits 10 n).all Char.isDigit = true := by
    rw [List.all_eq_true]
    exact fun c hc => Nat.isDigit_of_mem_toDigits (by decide) (by decide) hc
  have hlead : ((Nat.toDigits 10 n).head? == some '0' && (Nat.toDigits 10 n).length != 1) =
      false := by
    by_cases hzero : n = 0
    · subst hzero
      decide
    · rw [beq_false_of_ne (head?_toDigits hzero)]
      rfl
  rw [whole?, hdigits, hlead, Nat.ofDigitChars_toDigits (by decide) (by decide)]
  simp [Nat.toDigits_ne_nil]

/-- An integer is written by the digits of its size, with a sign below zero. -/
theorem toString_int (n : Int) :
    (∃ m : Nat, n = m ∧ (toString n).toList = Nat.toDigits 10 m) ∨
      ∃ m : Nat, m ≠ 0 ∧ n = -m ∧ (toString n).toList = '-' :: Nat.toDigits 10 m := by
  cases n with
  | ofNat m => exact .inl ⟨m, rfl, Nat.toList_repr⟩
  | negSucc m =>
    refine .inr ⟨m + 1, m.succ_ne_zero, rfl, ?_⟩
    show ("-" ++ Nat.repr (m + 1)).toList = _
    simp

theorem number?_toString (n : Int) : number? (toString n).toList = some (.int n) := by
  rcases toString_int n with ⟨m, hn, htext⟩ | ⟨m, hm, hn, htext⟩
  · have hsign : (Nat.toDigits 10 m).head? ≠ some '-' := by
      intro h
      have hdigit := Nat.isDigit_of_mem_toDigits (by decide) (by decide) (List.mem_of_head? h)
      contradiction
    rw [htext, number?, unsigned, if_neg hsign, whole?_toDigits, hn]
    exact if_pos hsign
  · rw [htext, number?, unsigned, List.head?_cons, if_pos rfl, List.tail_cons, whole?_toDigits, hn]
    simp [hm]

theorem isWordChar_toString (n : Int) : ∀ c ∈ (toString n).toList, isWordChar c = true := by
  have hdigit {m : Nat} : ∀ c ∈ Nat.toDigits 10 m, isWordChar c = true := by
    intro c hc
    have hdigit := Nat.isDigit_of_mem_toDigits (by decide) (by decide) hc
    simp [isWordChar, Char.isAlphanum, hdigit]
  rcases toString_int n with ⟨m, -, htext⟩ | ⟨m, -, -, htext⟩
  · rw [htext]
    exact hdigit
  · rw [htext, List.forall_mem_cons]
    exact ⟨rfl, hdigit⟩

/-- No word stands for anything but a number if it reads as an integer. -/
theorem word?_toString (n : Int) : word? (toString n).toList = some (.int n) := by
  have hnumber := number?_toString n
  have hword {word : List Char} (hnone : number? word = none) : (toString n).toList ≠ word := by
    rintro rfl
    exact nomatch hnone.symm.trans hnumber
  rw [word?, if_neg (hword (by decide +kernel)), if_neg (hword (by decide +kernel)),
    if_neg (hword (by decide +kernel)), hnumber]

theorem word?_null : word? ['n', 'u', 'l', 'l'] = some .null := if_pos (by decide +kernel)

theorem word?_true : word? ['t', 'r', 'u', 'e'] = some (.bool true) := by
  rw [word?, if_neg (by decide +kernel), if_pos (by decide +kernel)]

theorem word?_false : word? ['f', 'a', 'l', 's', 'e'] = some (.bool false) := by
  rw [word?, if_neg (by decide +kernel), if_neg (by decide +kernel), if_pos (by decide +kernel)]

end Words

end Json

end ZodCatalog.Document
