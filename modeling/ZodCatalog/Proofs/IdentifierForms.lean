import Mathlib.Logic.Basic
import ZodCatalog.Naming.Family

/-! The forms of names made of parts. In Pascal case the parts stand side by side, each in its own
form, and a constant has no small ASCII letter, so that no constant is the name of a schema. -/

namespace ZodCatalog

namespace Text

/-- The words of two texts with a separator between them are those of the one and of the other. -/
theorem words_append_cons {sep : Char} (hsep : isAlphanumeric sep = false) (s t : List Char) :
    words (s ++ sep :: t) = words s ++ words t := by
  rw [words, splitWhere_append_cons (by simp [hsep]), List.flatMap_append]
  rfl

theorem ne_nil_of_mem_pushHead {c : Char} {pieces : List (List Char)}
    (h : ∀ w ∈ pieces.tail, w ≠ []) : ∀ w ∈ pushHead c pieces, w ≠ [] := by
  cases pieces with
  | nil => simp [pushHead]
  | cons piece pieces => simpa [pushHead] using h

/-- Only the first piece of a run can be empty, and only after a letter in upper case. -/
theorem humps_ne_nil (m : Stretch) (s : List Char) :
    (∀ w ∈ (humps m s).tail, w ≠ []) ∧ (m ≠ .upper → ∀ w ∈ humps m s, w ≠ []) := by
  fun_induction humps m s with
  | case1 => simp
  | case2 => simp
  | case3 m c d r hlow ih => exact ⟨ih.2 (by decide), fun _ => by simpa using ih.2 (by decide)⟩
  | case4 m c d r hlow hup ih =>
    -- The piece in front is empty here: the letters before it are put there by the caller.
    refine ⟨ne_nil_of_mem_pushHead ih.1, fun hm => ?_⟩
    simp [hm] at hup
  | case5 m c d r hlow hup ih =>
    have hall := ne_nil_of_mem_pushHead (c := c) ih.1
    exact ⟨fun w hw => hall w (List.mem_of_mem_tail hw), fun _ => hall⟩

theorem ne_nil_of_mem_words {s w : List Char} (h : w ∈ words s) : w ≠ [] := by
  obtain ⟨run, -, hw⟩ := List.mem_flatMap.1 h
  exact (humps_ne_nil .fresh run).2 (by decide) w hw

theorem joinWith_append {sep : List Char} {xs ys : List (List Char)} (hx : xs ≠ []) (hy : ys ≠ []) :
    joinWith sep (xs ++ ys) = joinWith sep xs ++ sep ++ joinWith sep ys := by
  induction xs with
  | nil => contradiction
  | cons x xs ih =>
    cases xs with
    | nil =>
      obtain ⟨y, ys, rfl⟩ := List.exists_cons_of_ne_nil hy
      rfl
    | cons x' xs =>
      have hrest := ih (by simp)
      simp only [List.cons_append, joinWith] at hrest ⊢
      rw [hrest]
      simp only [List.append_assoc]

theorem joinWith_eq_nil_iff {sep : List Char} {xs : List (List Char)} (h : ∀ x ∈ xs, x ≠ []) :
    joinWith sep xs = [] ↔ xs = [] := by
  match xs with
  | [] => simp [joinWith]
  | [x] => simpa [joinWith] using h
  | x :: y :: xs =>
    have hx := h x List.mem_cons_self
    simp [joinWith, hx]

/-- Pieces in front of a join can be taken off on both sides. -/
theorem joinWith_append_left_inj {sep : List Char} {xs ys zs : List (List Char)} (hsep : sep ≠ [])
    (hy : ∀ y ∈ ys, y ≠ []) (hz : ∀ z ∈ zs, z ≠ []) :
    joinWith sep (xs ++ ys) = joinWith sep (xs ++ zs) ↔ joinWith sep ys = joinWith sep zs := by
  -- If only one of the joins has more than `xs`, it is longer, and its own pieces are not empty.
  have hlonger {l : List (List Char)} (hx : xs ≠ []) (hl : l ≠ []) :
      joinWith sep (xs ++ l) ≠ joinWith sep xs := by
    rw [joinWith_append hx hl]
    simp [hsep]
  rcases eq_or_ne xs [] with rfl | hx
  · rfl
  rcases eq_or_ne ys [] with rfl | hys <;> rcases eq_or_ne zs [] with rfl | hzs
  · exact iff_of_true rfl rfl
  · have hne : joinWith sep zs ≠ [] := mt (joinWith_eq_nil_iff hz).1 hzs
    rw [List.append_nil]
    exact iff_of_false (hlonger hx hzs).symm hne.symm
  · have hne : joinWith sep ys ≠ [] := mt (joinWith_eq_nil_iff hy).1 hys
    rw [List.append_nil]
    exact iff_of_false (hlonger hx hys) hne
  · rw [joinWith_append hx hys, joinWith_append hx hzs, List.append_right_inj]

theorem isLower_iff {c : Char} : c.isLower = true ↔ 97 ≤ c.toNat ∧ c.toNat ≤ 122 := by
  have hbounds : c.isLower = (decide (c.val ≥ 97) && decide (c.val ≤ 122)) := rfl
  rw [hbounds]
  simp [UInt32.le_iff_toNat_le, ← Char.toNat_val]

/-- A number is the code of its character, or its character is the one of the number zero. -/
theorem toNat_ofNat (n : Nat) : (Char.ofNat n).toNat = n ∨ (Char.ofNat n).toNat = 0 := by
  by_cases h : n.isValidChar
  · have hvalid : Char.ofNat n = Char.ofNatAux n h := dif_pos h
    exact .inl (congrArg Char.toNat hvalid)
  · have hinvalid : Char.ofNat n = '\x00' := dif_neg h
    exact .inr (congrArg Char.toNat hinvalid)

theorem isLower_ofNat {n : Nat} (h : (Char.ofNat n).isLower = true) : 97 ≤ n ∧ n ≤ 122 := by
  rw [isLower_iff] at h
  rcases toNat_ofNat n with hn | hn <;> omega

theorem isLower_toUpper (c : Char) : c.toUpper.isLower = false := by
  rw [Bool.eq_false_iff, Ne, isLower_iff]
  unfold Char.toUpper
  split
  · rename_i h
    have hlow : 97 ≤ c.val.toNat ∧ c.val.toNat ≤ 122 := h
    have hdown : ('A'.val - 'a'.val).toNat = 2 ^ 32 - 32 := rfl
    rw [← Char.toNat_val, UInt32.toNat_add]
    omega
  · rename_i h
    exact h

/-- No span of the table is moved into the small ASCII letters. -/
theorem raisingShifts_apart :
    ∀ s ∈ raisingShifts, s.last + s.distance < 97 ∨ 122 < s.first + s.distance := by
  decide +kernel

theorem isLower_shifted {c : Char} (h : c.isLower = false) :
    (shifted raisingShifts c).isLower = false := by
  unfold shifted
  split
  · rename_i s hs
    rw [Bool.eq_false_iff]
    intro hlow
    have hapart := raisingShifts_apart s (List.mem_of_find?_eq_some hs)
    have hin := List.find?_some hs
    have htarget := isLower_ofNat hlow
    simp only [Shift.contains, Shift.target, Bool.and_eq_true, decide_eq_true_eq] at hin htarget
    omega
  · exact h

theorem raisingExpansions_apart :
    ∀ e ∈ raisingExpansions, e.2 ≠ [] ∧ ∀ n ∈ e.2, (Char.ofNat n).isLower = false := by
  decide +kernel

theorem raisingExpansions_lookup {n : Nat} {codes : List Nat}
    (h : raisingExpansions.lookup n = some codes) :
    codes ≠ [] ∧ ∀ k ∈ codes, (Char.ofNat k).isLower = false := by
  obtain ⟨before, after, hsplit, -⟩ := List.lookup_eq_some_iff.1 h
  exact raisingExpansions_apart (n, codes) (by simp [hsplit])

/-- A character in upper form has no small ASCII letter. -/
theorem isLower_of_mem_upperChar {c d : Char} (h : d ∈ upperChar c) : d.isLower = false := by
  unfold upperChar at h
  split at h
  · rw [List.mem_singleton.1 h]
    exact isLower_toUpper c
  rename_i hascii
  split at h
  · rename_i codes hcodes
    obtain ⟨k, hk, rfl⟩ := List.mem_map.1 h
    exact (raisingExpansions_lookup hcodes).2 k hk
  · rw [List.mem_singleton.1 h]
    refine isLower_shifted ?_
    simp only [isAscii, decide_eq_true_eq] at hascii
    rw [Bool.eq_false_iff, Ne, isLower_iff]
    omega

theorem upperChar_ne_nil (c : Char) : upperChar c ≠ [] := by
  unfold upperChar
  split
  · exact List.cons_ne_nil _ _
  split
  · rename_i codes hcodes
    exact mt List.map_eq_nil_iff.1 (raisingExpansions_lookup hcodes).1
  · exact List.cons_ne_nil _ _

theorem upperWord_ne_nil {w : List Char} (h : w ≠ []) : upperWord w ≠ [] := by
  cases w with
  | nil => contradiction
  | cons c r => exact List.append_ne_nil_of_left_ne_nil (upperChar_ne_nil c) _

/-- No span of the table is moved down to a character below the small ASCII letters. -/
theorem loweringShifts_apart : ∀ s ∈ loweringShifts, 95 < s.first + s.distance := by
  decide +kernel

theorem toLower_eq_of_le {c sep : Char} (hsep : sep.toNat ≤ 95) (h : c.toLower = sep) :
    c = sep := by
  unfold Char.toLower at h
  split at h
  · rename_i hupper
    have hval := congrArg (fun d : Char => d.val.toNat) h
    have hrange : 65 ≤ c.val.toNat ∧ c.val.toNat ≤ 90 := hupper
    have hshift : ('a'.val - 'A'.val).toNat = 32 := rfl
    have hcode : sep.val.toNat ≤ 95 := hsep
    simp only [UInt32.toNat_add] at hval
    omega
  · exact h

/-- Only a separator itself has it in its lower form. -/
theorem not_mem_lowerChar {c sep : Char} (hsep : 0 < sep.toNat ∧ sep.toNat ≤ 95) (h : c ≠ sep) :
    sep ∉ lowerChar c := by
  unfold lowerChar
  split
  · rw [List.mem_singleton]
    exact fun heq => h (toLower_eq_of_le hsep.2 heq.symm)
  split
  · intro hmem
    simp only [List.mem_cons, List.not_mem_nil, or_false] at hmem
    rcases hmem with rfl | rfl <;> revert hsep <;> decide
  · rw [List.mem_singleton, shifted]
    split
    · rename_i s hs
      intro heq
      have hapart := loweringShifts_apart s (List.mem_of_find?_eq_some hs)
      have hin := List.find?_some hs
      have htarget := toNat_ofNat (s.target c.toNat)
      rw [← heq] at htarget
      simp only [Shift.contains, Shift.target, Bool.and_eq_true, decide_eq_true_eq] at hin htarget
      omega
    · exact h.symm

theorem not_mem_lowerWord {w : List Char} {sep : Char} (hsep : 0 < sep.toNat ∧ sep.toNat ≤ 95)
    (h : sep ∉ w) : sep ∉ lowerWord w := by
  fun_induction lowerWord w with
  | case1 => exact h
  | case2 =>
    rw [List.mem_singleton]
    rintro rfl
    revert hsep
    decide
  | case3 c => exact not_mem_lowerChar hsep fun heq => h (heq ▸ List.mem_cons_self)
  | case4 c r _ ih =>
    rw [List.mem_append, not_or]
    exact ⟨not_mem_lowerChar hsep fun heq => h (heq ▸ List.mem_cons_self),
      ih fun hr => h (List.mem_cons_of_mem _ hr)⟩

theorem isAlphanumeric_of_mem_words {s w : List Char} {c : Char} (hw : w ∈ words s) (hc : c ∈ w) :
    isAlphanumeric c = true := by
  have hmem : c ∈ (words s).flatten := List.mem_flatten.2 ⟨w, hw, hc⟩
  rw [flatten_words] at hmem
  exact (List.mem_filter.1 hmem).2

end Text

open Text

theorem isLower_of_mem_shouting {c : Char} {s : List Char} (h : c ∈ shouting s) :
    c.isLower = false := by
  rcases mem_joinWith h with h | ⟨piece, hpiece, h⟩
  · rw [List.mem_singleton.1 h]
    rfl
  · obtain ⟨w, -, rfl⟩ := List.mem_map.1 hpiece
    obtain ⟨d, -, hd⟩ := List.mem_flatMap.1 h
    exact isLower_of_mem_upperChar hd

/-- The same text in front of two constants can be taken off. -/
theorem shouting_append_left_inj (s t u : List Char) :
    shouting (s ++ '_' :: t) = shouting (s ++ '_' :: u) ↔ shouting t = shouting u := by
  have hpieces (v : List Char) : ∀ w ∈ (words v).map upperWord, w ≠ [] := by
    intro w hw
    obtain ⟨piece, hpiece, rfl⟩ := List.mem_map.1 hw
    exact upperWord_ne_nil (ne_nil_of_mem_words hpiece)
  have hlow : isAlphanumeric '_' = false := by decide
  simp only [shouting, words_append_cons hlow, List.map_append]
  exact joinWith_append_left_inj (by decide) (hpieces t) (hpieces u)

namespace Casing

theorem pascal_append (s t : String) :
    pascal.apply (s ++ "_" ++ t) = pascal.apply s ++ pascal.apply t := by
  have hlow : isAlphanumeric '_' = false := by decide
  have hwords : words (s ++ "_" ++ t).toList = words s.toList ++ words t.toList := by
    simpa using words_append_cons hlow s.toList t.toList
  simp only [apply, onChars, hwords, List.flatMap_append, String.ofList_append]

theorem pascal_intercalate (parts : List String) :
    pascal.apply ("_".intercalate parts) = String.join (parts.map pascal.apply) := by
  match parts with
  | [] => rfl
  | [part] => simp
  | part :: part' :: parts =>
    rw [String.intercalate_cons_cons, pascal_append, pascal_intercalate (part' :: parts)]
    simp only [List.map_cons, String.join_cons]

end Casing

namespace Naming

variable {n : Naming} {table : String}

/-- In Pascal case the parts of an identifier stand side by side. -/
theorem object_pascal (h : n.objectCasing = .pascal) (parts : List String) :
    n.object parts = String.join (parts.map Casing.pascal.apply) := by
  rw [object, h, Casing.pascal_intercalate]
  induction parts with
  | nil => rfl
  | cons part parts ih =>
    rcases eq_or_ne part "" with rfl | hpart
    · exact ih
    · simp [hpart, ih]

variable {c d : String} {op op' : Operation} {kind : RelationKind}

theorem enumType_pascal (h : n.objectCasing = .pascal) : n.enumType table c =
    Casing.pascal.apply (n.entity table) ++ Casing.pascal.apply c := by
  simp [enumType, object_pascal h]

theorem enumSchema_pascal (h : n.objectCasing = .pascal) : n.enumSchema table c =
    Casing.pascal.apply (n.entity table) ++ Casing.pascal.apply c ++ "Schema" := by
  have hschema : Casing.pascal.apply "schema" = "Schema" := by decide
  simp [enumSchema, object_pascal h, hschema, String.append_assoc]

theorem tableSchema_pascal (h : n.objectCasing = .pascal) : n.tableSchema op table kind =
    Casing.pascal.apply op.word ++
      (Casing.pascal.apply table ++ Casing.pascal.apply kind.word) ++ "Schema" := by
  have hschema : Casing.pascal.apply "schema" = "Schema" := by decide
  simp [tableSchema, object_pascal h, hschema, String.append_assoc]

theorem recordType_pascal (h : n.objectCasing = .pascal) : n.recordType op table =
    Casing.pascal.apply op.word ++ Casing.pascal.apply (n.entity table) := by
  simp [recordType, object_pascal h]

theorem enumType_inj (h : n.objectCasing = .pascal) :
    n.enumType table c = n.enumType table d ↔
      Casing.pascal.apply c = Casing.pascal.apply d := by
  rw [enumType_pascal h, enumType_pascal h, String.append_right_inj]

theorem enumSchema_inj (h : n.objectCasing = .pascal) :
    n.enumSchema table c = n.enumSchema table d ↔
      Casing.pascal.apply c = Casing.pascal.apply d := by
  rw [enumSchema_pascal h, enumSchema_pascal h, String.append_left_inj, String.append_right_inj]

theorem enumConstant_inj : n.enumConstant table c = n.enumConstant table d ↔
    shouting (pluralize c).toList = shouting (pluralize d).toList := by
  have hparts (column : String) : (n.entity table ++ "_" ++ pluralize column).toList =
      (n.entity table).toList ++ '_' :: (pluralize column).toList := by simp
  rw [enumConstant, enumConstant, String.ofList_inj, hparts, hparts]
  exact shouting_append_left_inj ..

theorem pascal_word_inj (h : Casing.pascal.apply op.word = Casing.pascal.apply op'.word) :
    op = op' := by
  revert h
  cases op <;> cases op' <;> decide

theorem tableSchema_inj (h : n.objectCasing = .pascal)
    (heq : n.tableSchema op table kind = n.tableSchema op' table kind) : op = op' := by
  rw [tableSchema_pascal h, tableSchema_pascal h, String.append_left_inj,
    String.append_left_inj] at heq
  exact pascal_word_inj heq

theorem recordType_inj (h : n.objectCasing = .pascal)
    (heq : n.recordType op table = n.recordType op' table) : op = op' := by
  rw [recordType_pascal h, recordType_pascal h, String.append_left_inj] at heq
  exact pascal_word_inj heq

theorem enumSchema_eq_tableSchema_iff (h : n.objectCasing = .pascal) :
    n.enumSchema table c = n.tableSchema op table kind ↔
      Casing.pascal.apply (n.entity table) ++ Casing.pascal.apply c = Casing.pascal.apply op.word ++
        (Casing.pascal.apply table ++ Casing.pascal.apply kind.word) := by
  rw [enumSchema_pascal h, tableSchema_pascal h, String.append_left_inj]

theorem enumType_eq_recordType_iff (h : n.objectCasing = .pascal) :
    n.enumType table c = n.recordType op table ↔
      Casing.pascal.apply (n.entity table) ++ Casing.pascal.apply c =
        Casing.pascal.apply op.word ++ Casing.pascal.apply (n.entity table) := by
  rw [enumType_pascal h, recordType_pascal h]

/-- The names of schemas end in small letters, and constants have none. -/
theorem enumConstant_ne_append_schema (s : String) : n.enumConstant table c ≠ s ++ "Schema" := by
  intro heq
  have hmem : 'a' ∈ (n.enumConstant table c).toList := by
    rw [heq, String.toList_append]
    exact List.mem_append_right _ (by decide)
  rw [enumConstant, String.toList_ofList] at hmem
  exact absurd (isLower_of_mem_shouting hmem) (by decide)

end Naming

end ZodCatalog
