import Mathlib.Tactic.SplitIfs
import ZodCatalog.Connection.Url

/-! Texts as the bytes that percent signs and characters stand for. A text without percent signs is
its own encoding, and decoding gives the characters back that were encoded. -/

namespace ZodCatalog

namespace Text.Utf8

theorem continuation_zero (code low high : Nat) (bs : List Nat) :
    continuation code 0 low high bs = (0, code) := by cases bs <;> rfl

theorem continuation_succ {code count low high b : Nat} (h : low ≤ b ∧ b ≤ high) (bs : List Nat) :
    continuation code (count + 1) low high (b :: bs) =
      ((continuation (64 * code + (b - 0x80)) count 0x80 0xBF bs).1 + 1,
        (continuation (64 * code + (b - 0x80)) count 0x80 0xBF bs).2) := by
  simp [continuation, h.1, h.2]

/-- Which bytes may follow a lead byte that starts a sequence of more than one. -/
theorem step_of_tail {lead count low high code : Nat} {bs : List Nat} (hlead : 0x80 ≤ lead)
    (htail : tail? lead = some (count, low, high))
    (h : continuation (leadBits lead count) count low high bs = (count, code)) :
    step lead bs = (some (Char.ofNat code), count) := by
  unfold step
  rw [if_neg (Nat.not_lt.2 hlead), htail]
  simp [h]

theorem tail?_two {lead : Nat} (h : 0xC2 ≤ lead ∧ lead ≤ 0xDF) :
    tail? lead = some (1, 0x80, 0xBF) := by
  simp [tail?, h]

/-- Three bytes do not hold what fits in two, and no surrogate. -/
theorem tail?_three {lead : Nat} (h : 0xE0 ≤ lead ∧ lead ≤ 0xEF) :
    tail? lead = some (2, if lead = 0xE0 then 0xA0 else 0x80,
      if lead = 0xED then 0x9F else 0xBF) := by
  grind [tail?]

/-- Four bytes do not hold what fits in three, and nothing above the last code point. -/
theorem tail?_four {lead : Nat} (h : 0xF0 ≤ lead ∧ lead ≤ 0xF4) :
    tail? lead = some (3, if lead = 0xF0 then 0x90 else 0x80,
      if lead = 0xF4 then 0x8F else 0xBF) := by
  grind [tail?]

section Sequences

variable {n : Nat} (rest : List Nat)

theorem continuation_two (h : n < 0x800) :
    continuation (leadBits (0xC0 + n / 64) 1) 1 0x80 0xBF ((0x80 + n % 64) :: rest) = (1, n) := by
  have hcode : 64 * (0xC0 + n / 64 - 0xC0) + (0x80 + n % 64 - 0x80) = n := by omega
  rw [leadBits, if_pos rfl, continuation_succ (by omega), continuation_zero, hcode]

theorem continuation_three {low high : Nat} (h : n < 0x10000)
    (hbyte : low ≤ 0x80 + n / 64 % 64 ∧ 0x80 + n / 64 % 64 ≤ high) :
    continuation (leadBits (0xE0 + n / 4096) 2) 2 low high
      ((0x80 + n / 64 % 64) :: (0x80 + n % 64) :: rest) = (2, n) := by
  have hcode : 64 * (64 * (0xE0 + n / 4096 - 0xE0) + (0x80 + n / 64 % 64 - 0x80)) +
      (0x80 + n % 64 - 0x80) = n := by omega
  rw [leadBits, if_neg (by decide), if_pos rfl, continuation_succ hbyte,
    continuation_succ (by omega), continuation_zero, hcode]

theorem continuation_four {low high : Nat}
    (hbyte : low ≤ 0x80 + n / 4096 % 64 ∧ 0x80 + n / 4096 % 64 ≤ high) :
    continuation (leadBits (0xF0 + n / 262144) 3) 3 low high
      ((0x80 + n / 4096 % 64) :: (0x80 + n / 64 % 64) :: (0x80 + n % 64) :: rest) = (3, n) := by
  have hcode : 64 * (64 * (64 * (0xF0 + n / 262144 - 0xF0) + (0x80 + n / 4096 % 64 - 0x80)) +
      (0x80 + n / 64 % 64 - 0x80)) + (0x80 + n % 64 - 0x80) = n := by omega
  rw [leadBits, if_neg (by decide), if_neg (by decide), continuation_succ hbyte,
    continuation_succ (by omega), continuation_succ (by omega), continuation_zero, hcode]

end Sequences

/-- The first sequence of an encoded text is read as its first character. -/
theorem step_encodeChar (c : Char) (rest : List Nat) : ∃ lead bytes,
    encodeChar c = lead :: bytes ∧ step lead (bytes ++ rest) = (some c, bytes.length) := by
  have hbounds : c.toNat < 0xD800 ∨ 0xDFFF < c.toNat ∧ c.toNat < 0x110000 := c.valid
  have hchar : Char.ofNat c.toNat = c := Char.ofNat_toNat c
  unfold encodeChar
  generalize c.toNat = n at hbounds hchar
  rw [← hchar]
  dsimp only
  -- One case for each number of bytes.
  split_ifs with hone htwo hthree
  · exact ⟨n, [], rfl, by simp [step, hone]⟩
  · refine ⟨_, _, rfl, step_of_tail ?_ (tail?_two ?_) (continuation_two rest htwo)⟩ <;> omega
  · refine ⟨_, _, rfl, step_of_tail ?_ (tail?_three ?_) (continuation_three rest hthree ?_)⟩
    · omega
    · omega
    · constructor <;> split_ifs <;> omega
  · refine ⟨_, _, rfl, step_of_tail ?_ (tail?_four ?_) (continuation_four rest ?_)⟩
    · omega
    · omega
    · constructor <;> split_ifs <;> omega

theorem decodeParts_encode (s : List Char) : decodeParts (encode s) = s.map some := by
  induction s with
  | nil => rw [encode, List.flatMap_nil, decodeParts, List.map_nil]
  | cons c s ih =>
    obtain ⟨lead, bytes, hencoded, hstep⟩ := step_encodeChar c (encode s)
    rw [encode, List.flatMap_cons, hencoded, List.cons_append, decodeParts]
    have hrest : s.flatMap encodeChar = encode s := rfl
    rw [hrest, hstep, List.drop_left, ih, List.map_cons]

theorem decodeLossy_encode (s : List Char) : decodeLossy (encode s) = s := by
  rw [decodeLossy, decodeParts_encode, List.map_map]
  exact List.map_id s

end Text.Utf8

namespace Url
open Text

theorem percentBytes_of_plain {s : List Char} (h : '%' ∉ s) : percentBytes s = Utf8.encode s := by
  induction s with
  | nil => rfl
  | cons c s ih =>
    have hc : c ≠ '%' := fun heq => h (heq ▸ List.mem_cons_self)
    have hrest := ih fun hmem => h (List.mem_cons_of_mem _ hmem)
    rw [percentBytes, hrest, Utf8.encode, Utf8.encode, List.flatMap_cons]
    exact fun _ _ _ heq _ => hc heq

/-- Without percent signs, a key or value is what is written, with blanks for plus signs. -/
theorem formDecode_of_plain {s : List Char} (h : '%' ∉ s) :
    formDecode s = String.ofList (s.map fun c => if c = '+' then ' ' else c) := by
  have hplain : '%' ∉ s.map fun c => if c = '+' then ' ' else c := by
    intro hmem
    obtain ⟨c, hc, heq⟩ := List.mem_map.1 hmem
    split_ifs at heq
    · exact absurd heq (by decide)
    · exact h (heq ▸ hc)
  rw [formDecode, percentBytes_of_plain hplain, Utf8.decodeLossy_encode]

end Url
end ZodCatalog
