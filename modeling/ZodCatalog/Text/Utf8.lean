/-!
Texts and their bytes. Decoding is strict, or puts a replacement character for each longest start
of a sequence that cannot be completed.
-/

namespace ZodCatalog.Text.Utf8

def encodeChar (c : Char) : List Nat :=
  let n := c.toNat
  if n < 0x80 then [n]
  else if n < 0x800 then [0xC0 + n / 64, 0x80 + n % 64]
  else if n < 0x10000 then [0xE0 + n / 4096, 0x80 + n / 64 % 64, 0x80 + n % 64]
  else [0xF0 + n / 262144, 0x80 + n / 4096 % 64, 0x80 + n / 64 % 64, 0x80 + n % 64]

def encode (s : List Char) : List Nat := s.flatMap encodeChar

/-- The number of bytes after a lead byte and the bounds of the first of them. -/
def tail? (lead : Nat) : Option (Nat × Nat × Nat) :=
  if 0xC2 ≤ lead && lead ≤ 0xDF then some (1, 0x80, 0xBF)
  else if lead = 0xE0 then some (2, 0xA0, 0xBF)
  else if lead = 0xED then some (2, 0x80, 0x9F)
  else if 0xE1 ≤ lead && lead ≤ 0xEF then some (2, 0x80, 0xBF)
  else if lead = 0xF0 then some (3, 0x90, 0xBF)
  else if 0xF1 ≤ lead && lead ≤ 0xF3 then some (3, 0x80, 0xBF)
  else if lead = 0xF4 then some (3, 0x80, 0x8F)
  else none

def leadBits (lead count : Nat) : Nat :=
  if count = 1 then lead - 0xC0 else if count = 2 then lead - 0xE0 else lead - 0xF0

/-- How many of the next `count` bytes continue a sequence, with their bits added to `code`. -/
def continuation (code count low high : Nat) : List Nat → Nat × Nat
  | [] => (0, code)
  | b :: bs =>
    if count = 0 then (0, code)
    else if low ≤ b && b ≤ high then
      let (taken, code) := continuation (64 * code + (b - 0x80)) (count - 1) 0x80 0xBF bs
      (taken + 1, code)
    else (0, code)

/-- The character of the next sequence, if it is complete, and how many bytes belong to it. -/
def step (lead : Nat) (rest : List Nat) : Option Char × Nat :=
  if lead < 0x80 then (some (Char.ofNat lead), 0)
  else
    match tail? lead with
    | none => (none, 0)
    | some (count, low, high) =>
      let (taken, code) := continuation (leadBits lead count) count low high rest
      (if taken = count then some (Char.ofNat code) else none, taken)

/-- The characters, a missing one standing for each incomplete sequence. -/
def decodeParts : List Nat → List (Option Char)
  | [] => []
  | b :: bs => (step b bs).1 :: decodeParts (bs.drop (step b bs).2)
termination_by bytes => bytes.length
decreasing_by
  simp only [List.length_drop, List.length_cons]
  omega

def decode? (bytes : List Nat) : Option (List Char) := (decodeParts bytes).mapM id

def decodeLossy (bytes : List Nat) : List Char := (decodeParts bytes).map (·.getD '\ufffd')

end ZodCatalog.Text.Utf8
