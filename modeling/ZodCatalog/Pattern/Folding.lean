import ZodCatalog.Text.LetterCase
import ZodCatalog.Text.Newest

/-!
Characters that patterns take for one another when case does not count.
-/

namespace ZodCatalog.Pattern

open Text

/-- Characters that another lower form than their own stands for. -/
def foldedApart : List (Nat × Nat) :=
  [(0xB5, 0x3BC), (0x17F, 0x73), (0x345, 0x3B9), (0x3C2, 0x3C3), (0x3D0, 0x3B2), (0x3D1, 0x3B8),
   (0x3D5, 0x3C6), (0x3D6, 0x3C0), (0x3F0, 0x3BA), (0x3F1, 0x3C1), (0x3F5, 0x3B5),
   (0x1C80, 0x432), (0x1C81, 0x434), (0x1C82, 0x43E), (0x1C83, 0x441), (0x1C84, 0x442),
   (0x1C85, 0x442), (0x1C86, 0x44A), (0x1C87, 0x463), (0x1C88, 0xA64B), (0x1E9B, 0x1E61),
   (0x1FBE, 0x3B9), (0x1FD3, 0x390), (0x1FE3, 0x3B0), (0xFB06, 0xFB05)]

/-- The character that stands for all that differ from it in case only. -/
def foldChar (c : Char) : Char :=
  if isAscii c then c.toLower
  else if isNewest c then c
  else
    match foldedApart.lookup c.toNat with
    | some n => Char.ofNat n
    | none => shifted loweringShifts c

/-- The character that a shift moves to a given one. -/
def shiftSource? (c : Char) (s : Shift) : Option Char :=
  let n := ((c.toNat : Int) - s.distance).toNat
  if s.contains n then some (Char.ofNat n) else none

/-- All characters that differ from one in case only, itself included. -/
def caseVariants (c : Char) : List Char :=
  let f := foldChar c
  let raised := if f.isLower then [f.toUpper] else []
  let moved := (loweringShifts.filterMap (shiftSource? f)).filter (!isNewest ·)
  let apart := foldedApart.filterMap fun (n, m) =>
    if m = f.toNat then some (Char.ofNat n) else none
  f :: raised ++ moved ++ apart

theorem foldChar_mem_caseVariants (c : Char) : foldChar c ∈ caseVariants c := by
  simp [caseVariants]

end ZodCatalog.Pattern
