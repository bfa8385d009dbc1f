import ZodCatalog.Proofs.EqualityReadings
import ZodCatalog.Proofs.FileNames
import ZodCatalog.Proofs.LimitedColumns

/-! Types under all the spellings of their names. What a column holds goes by the name alone: not by
the case of its letters, the blanks around it, a modifier in parentheses behind it, or which of the
two ways of writing an array of the type is taken. -/

namespace ZodCatalog

namespace Text
open Check (IsGap)

section Blanks

variable {s : List Char}

theorem trim_padded {lead trail : List Char} (hlead : IsGap lead) (htrail : IsGap trail)
    (s : List Char) : trim (lead ++ (s ++ trail)) = trim s := by
  rw [Check.trim_gap_append hlead, Check.trim_append_gap htrail]

theorem trim_trimStart (s : List Char) : trim (trimStart s) = trim s := by
  obtain ⟨gap, hs, hgap⟩ := Check.append_trimStart s
  have hpadded := Check.trim_gap_append hgap (trimStart s)
  rw [← hs] at hpadded
  exact hpadded.symm

theorem trim_trimEnd (s : List Char) : trim (trimEnd s) = trim s := by
  obtain ⟨gap, hs, hgap⟩ := Check.append_trimEnd s
  have hpadded := Check.trim_append_gap hgap (trimEnd s)
  rw [← hs] at hpadded
  exact hpadded.symm

theorem trim_trim (s : List Char) : trim (trim s) = trim s := by
  have hends : trim s = trimEnd (trimStart s) := rfl
  rw [hends, trim_trimEnd, trim_trimStart, hends]

/-- Behind a text that ends without blanks, only those in front of it are dropped. -/
theorem trim_append_closed {c d : Char} (hc : isBlank c = false) (hd : isBlank d = false)
    (s m : List Char) : trim (s ++ c :: (m ++ [d])) = trimStart s ++ c :: (m ++ [d]) := by
  have hclosed : trimEnd (m ++ [d]) = m ++ [d] := trimEnd_append hd m []
  rw [trim, trimStart_append_cons hc, trimEnd_append hc, hclosed]

theorem isBlank_of_isAlphabetic {c : Char} (h : isAlphabetic c = true) : isBlank c = false := by
  have hnone : ∀ n ∈ Check.blankCodes, isAlphabetic (Char.ofNat n) = false := by decide +kernel
  by_contra hblank
  have hletter : isAlphabetic c = false :=
    Check.forall_blank (p := (isAlphabetic · = false)) hnone (by simpa using hblank)
  exact Bool.false_ne_true (hletter.symm.trans h)

end Blanks

section LetterCase

variable {s t : List Char}

theorem isBlank_of_mem_lowerChar {c d : Char} (hd : d ∈ lowerChar c) : isBlank d = isBlank c := by
  cases hc : isBlank c with
  | true =>
    have hkept : ∀ n ∈ Check.blankCodes, lowerChar (Char.ofNat n) = [Char.ofNat n] := by
      decide +kernel
    rw [Check.forall_blank (p := fun c => lowerChar c = [c]) hkept hc, List.mem_singleton] at hd
    rw [hd, hc]
  | false =>
    unfold lowerChar at hd
    split at hd
    · rw [List.mem_singleton.1 hd, Check.isBlank_toLower, hc]
    split at hd
    · simp only [List.mem_cons, List.not_mem_nil, or_false] at hd
      rcases hd with rfl | rfl <;> decide
    · rw [List.mem_singleton.1 hd, shifted]
      split
      · rename_i hs
        have hin := List.find?_some hs
        rcases ofNat_target (List.mem_of_find?_eq_some hs) hin with hk | ⟨-, hletter⟩
        · rw [hk]
          decide
        · exact isBlank_of_isAlphabetic hletter
      · exact hc

theorem isGap_lower (h : IsGap s) : IsGap (lower s) := by
  intro d hd
  obtain ⟨c, hc, hd⟩ := List.mem_flatMap.1 hd
  rw [isBlank_of_mem_lowerChar hd, h c hc]

theorem trim_lower_of_trim (h : trim s = s) : trim (lower s) = lower s := by
  rw [Check.trim_eq_self_iff] at h ⊢
  constructor
  · intro d hd
    cases s with
    | nil => simp at hd
    | cons c s =>
      rw [lower_cons, List.head?_append_of_ne_nil _ (lowerChar_ne_nil c)] at hd
      rw [isBlank_of_mem_lowerChar (List.mem_of_mem_head? hd), h.1 c rfl]
  · intro d hd
    rcases List.eq_nil_or_concat s with rfl | ⟨s, c, rfl⟩
    · simp at hd
    · rw [List.concat_eq_append] at h hd
      have hlower : lower (s ++ [c]) = lower s ++ lowerChar c := by simp
      rw [hlower, List.getLast?_append_of_ne_nil _ (lowerChar_ne_nil c)] at hd
      rw [isBlank_of_mem_lowerChar (List.mem_of_getLast? hd), h.2 c List.getLast?_concat]

theorem trim_lower (s : List Char) : trim (lower s) = lower (trim s) := by
  obtain ⟨lead, trail, hs, hlead, htrail⟩ := Check.exists_trim s
  have hlower : lower s = lower lead ++ (lower (trim s) ++ lower trail) := by
    rw [← lower_append, ← lower_append, ← hs]
  rw [hlower, trim_padded (isGap_lower hlead) (isGap_lower htrail)]
  exact trim_lower_of_trim (trim_trim s)

theorem not_mem_lower {c : Char} (hc : 0 < c.toNat ∧ c.toNat ≤ 95) (h : c ∉ s) : c ∉ lower s := by
  intro hmem
  obtain ⟨d, hd, hmem⟩ := List.mem_flatMap.1 hmem
  exact not_mem_lowerChar hc (fun heq => h (heq ▸ hd)) hmem

theorem lowerChar_toLower (c : Char) : lowerChar c.toLower = lowerChar c := by
  cases hc : isAscii c with
  | true =>
    refine forall_ascii (p := fun c => lowerChar c.toLower = lowerChar c) ?_
      (by simpa [isAscii] using hc)
    decide +kernel
  | false =>
    have hsame : c.toLower = c := by
      unfold Char.toLower
      rw [dif_neg]
      rintro ⟨-, hlow⟩
      have hle : c.toNat ≤ 90 := hlow
      simp [isAscii] at hc
      omega
    rw [hsame]

theorem lower_map_toLower (s : List Char) : lower (s.map Char.toLower) = lower s := by
  induction s with
  | nil => rfl
  | cons c s ih => rw [List.map_cons, lower_cons, lower_cons, lowerChar_toLower, ih]

theorem trimStart_map_toLower (s : List Char) :
    trimStart (s.map Char.toLower) = (trimStart s).map Char.toLower := by
  have hkept : isBlank ∘ Char.toLower = isBlank := by
    funext c
    exact Check.isBlank_toLower c
  rw [trimStart, trimStart, List.dropWhile_map, hkept]

theorem trimEnd_map_toLower (s : List Char) :
    trimEnd (s.map Char.toLower) = (trimEnd s).map Char.toLower := by
  have hstart := trimStart_map_toLower s.reverse
  rw [trimEnd, trimEnd, ← List.map_reverse, ← trimStart, ← trimStart, hstart, List.map_reverse]

theorem trim_map_toLower (s : List Char) :
    trim (s.map Char.toLower) = (trim s).map Char.toLower := by
  rw [trim, trim, trimStart_map_toLower, trimEnd_map_toLower]

/-- A text without letters is the only one that has it for a lower form. -/
theorem eq_of_map_toLower {k : List Char} (hk : ∀ c ∈ k, c.toNat ≤ 95)
    (h : s.map Char.toLower = k) : s = k := by
  induction s generalizing k with
  | nil => exact h
  | cons c s ih =>
    subst h
    rw [List.map_cons, List.forall_mem_cons] at hk
    rw [List.map_cons, ← ih hk.2 rfl, ← toLower_eq_of_le hk.1 rfl]

end LetterCase

end Text

open Text

namespace Classification
open Check (IsGap forall_mem_of_all parenthesized)

/-- A trimmed name that is not written as that of an array. -/
structure IsScalarName (t : List Char) : Prop where
  trimmed : trim t = t
  unmarked : ¬ ['_'] <+: t
  unbracketed : ¬ ['[', ']'] <:+ t

instance (t : List Char) : Decidable (IsScalarName t) :=
  decidable_of_iff (trim t = t ∧ ¬ ['_'] <+: t ∧ ¬ ['[', ']'] <:+ t)
    ⟨fun h => ⟨h.1, h.2.1, h.2.2⟩, fun h => ⟨h.trimmed, h.unmarked, h.unbracketed⟩⟩

/-- The ways to write a type or, where the flag is set, its arrays. Any change may follow others,
but arrays are not written of arrays. -/
inductive Respelling (t : List Char) : Bool → List Char → Prop
  | self : Respelling t false t
  | recased {isArray : Bool} {r s : List Char} (hcase : eqIgnoringAsciiCase r s = true) :
      Respelling t isArray s → Respelling t isArray r
  | padded {isArray : Bool} {lead s trail : List Char} (hlead : IsGap lead) (htrail : IsGap trail) :
      Respelling t isArray s → Respelling t isArray (lead ++ (s ++ trail))
  | modified {s : List Char} (m : List Char) (hopen : '(' ∉ s) :
      Respelling t false s → Respelling t false (s ++ parenthesized m)
  | marked {s : List Char} : Respelling t false s → Respelling t true ('_' :: s)
  | bracketed {s : List Char} : Respelling t false s → Respelling t true (s ++ ['[', ']'])

section Splitting

variable {r s : List Char}

theorem splitArrayChars_congr (h : trim r = trim s) : splitArrayChars r = splitArrayChars s := by
  rw [splitArrayChars, splitArrayChars, h]

theorem splitArrayChars_marked (h : trim s = '_' :: r) : splitArrayChars s = (r, true) := by
  rw [splitArrayChars, h]
  rfl

theorem after?_eq_none (h : ¬ ['_'] <+: s) : after? ['_'] s = none := by
  rw [after?, if_neg (by simpa using h)]

theorem splitArrayChars_bracketed (hmark : ¬ ['_'] <+: trim s) (h : trim s = r ++ ['[', ']']) :
    splitArrayChars s = (trimEnd r, true) := by
  have hbefore : before? ['[', ']'] (r ++ ['[', ']']) = some r := by simp [before?]
  rw [splitArrayChars, after?_eq_none hmark, h, hbefore]

theorem splitArrayChars_scalar (hmark : ¬ ['_'] <+: trim s) (hbracket : ¬ ['[', ']'] <:+ trim s) :
    splitArrayChars s = (trim s, false) := by
  have hbefore : before? ['[', ']'] (trim s) = none := by
    rw [before?, if_neg (by simpa using hbracket)]
  rw [splitArrayChars, after?_eq_none hmark, hbefore]

/-- How a name is split, by what it starts and ends with. -/
theorem splitArrayChars_cases (s : List Char) :
    (∃ r, trim s = '_' :: r ∧ splitArrayChars s = (r, true)) ∨
    (∃ r, ¬ ['_'] <+: trim s ∧ trim s = r ++ ['[', ']'] ∧ splitArrayChars s = (trimEnd r, true)) ∨
    (¬ ['_'] <+: trim s ∧ ¬ ['[', ']'] <:+ trim s ∧ splitArrayChars s = (trim s, false)) := by
  by_cases hmark : ['_'] <+: trim s
  · obtain ⟨r, hr⟩ := hmark
    exact .inl ⟨r, hr.symm, splitArrayChars_marked hr.symm⟩
  by_cases hbracket : ['[', ']'] <:+ trim s
  · obtain ⟨r, hr⟩ := hbracket
    exact .inr (.inl ⟨r, hmark, hr.symm, splitArrayChars_bracketed hmark hr.symm⟩)
  · exact .inr (.inr ⟨hmark, hbracket, splitArrayChars_scalar hmark hbracket⟩)

theorem splitArrayChars_map_toLower (s : List Char) : splitArrayChars (s.map Char.toLower) =
    ((splitArrayChars s).1.map Char.toLower, (splitArrayChars s).2) := by
  have htrim := trim_map_toLower s
  have hmarked : ['_'] <+: (trim s).map Char.toLower → ['_'] <+: trim s := by
    rintro ⟨u, hu⟩
    obtain ⟨a, b, hab, ha, -⟩ := List.map_eq_append_iff.1 hu.symm
    exact ⟨b, by rw [hab, eq_of_map_toLower (forall_mem_of_all (by decide)) ha]⟩
  have hbracketed : ['[', ']'] <:+ (trim s).map Char.toLower → ['[', ']'] <:+ trim s := by
    rintro ⟨u, hu⟩
    obtain ⟨a, b, hab, -, hb⟩ := List.map_eq_append_iff.1 hu.symm
    exact ⟨a, by rw [hab, eq_of_map_toLower (forall_mem_of_all (by decide)) hb]⟩
  rcases splitArrayChars_cases s with ⟨r, hr, hs⟩ | ⟨r, hmark, hr, hs⟩ | ⟨hmark, hbracket, hs⟩
  · rw [hs, splitArrayChars_marked (htrim.trans (congrArg _ hr))]
  · rw [hr, List.map_append] at htrim
    have hmark' : ¬ ['_'] <+: trim (s.map Char.toLower) := by
      rw [trim_map_toLower]
      exact mt hmarked hmark
    rw [hs, splitArrayChars_bracketed hmark' htrim, trimEnd_map_toLower]
  · rw [hs, splitArrayChars_scalar, htrim]
    · rw [htrim]
      exact mt hmarked hmark
    · rw [htrim]
      exact mt hbracketed hbracket

end Splitting

section BaseNames

variable {r s : List Char}

theorem baseName_congr (h : trim r = trim s) : baseName r = baseName s := by
  rw [baseName, baseName, h]

theorem baseName_recased (h : r.map Char.toLower = s.map Char.toLower) :
    baseName r = baseName s := by
  have hlower : lower r = lower s := by rw [← lower_map_toLower, h, lower_map_toLower]
  rw [baseName, baseName, ← trim_lower, ← trim_lower, hlower]

theorem baseName_of_not_mem (h : '(' ∉ s) : baseName s = lower (trim s) := by
  have hnone : '(' ∉ lower (trim s) :=
    not_mem_lower (by decide) fun hmem => h ((trim_sublist s).subset hmem)
  rw [baseName, cutFirst_of_none (beq_eq_false_of_not_mem hnone)]

theorem baseName_modified (h : '(' ∉ s) (m : List Char) :
    baseName (s ++ parenthesized m) = baseName s := by
  have hstart : '(' ∉ lower (trimStart s) :=
    not_mem_lower (by decide) fun hmem => h ((List.dropWhile_sublist isBlank).subset hmem)
  have hlower : lower (trim (s ++ parenthesized m)) =
      lower (trimStart s) ++ '(' :: lower (m ++ [')']) := by
    rw [parenthesized, trim_append_closed (by decide) (by decide), lower_append]
    rfl
  have hcut := cutFirst_append (beq_eq_false_of_not_mem hstart) (beq_self_eq_true '(')
    (lower (m ++ [')']))
  rw [baseName, hlower, hcut, baseName_of_not_mem h]
  dsimp only
  rw [trim_lower, trim_trimStart]

end BaseNames

section Respellings

variable {t s : List Char} {isArray : Bool}

theorem scalar_of_split (h : (splitArrayChars s).2 = false) :
    ¬ ['_'] <+: trim s ∧ ¬ ['[', ']'] <:+ trim s ∧ splitArrayChars s = (trim s, false) := by
  rcases splitArrayChars_cases s with ⟨r, -, hs⟩ | ⟨r, -, -, hs⟩ | hscalar
  · simp [hs] at h
  · simp [hs] at h
  · exact hscalar

theorem unmarked_append {c : Char} (hc : c ≠ '_') (h : ¬ ['_'] <+: trim s) (m : List Char) :
    ¬ ['_'] <+: trimStart s ++ c :: m := by
  intro hmark
  cases hs : trimStart s with
  | nil =>
    rw [hs, List.nil_append, List.cons_prefix_cons] at hmark
    exact hc hmark.1.symm
  | cons d u =>
    rw [hs, List.cons_append, List.cons_prefix_cons] at hmark
    obtain rfl := hmark.1
    have htrim : trim s = '_' :: trimEnd u := by
      rw [← trim_trimStart, hs, trim_cons (by decide)]
    exact h ⟨trimEnd u, htrim.symm⟩

/-- Every spelling is split into the type, whose base name it keeps, and whether it is an array. -/
theorem Respelling.reads (ht : IsScalarName t) (hs : Respelling t isArray s) :
    (splitArrayChars s).2 = isArray ∧ baseName (splitArrayChars s).1 = baseName t := by
  -- What is left of a scalar spelling is the spelling itself without the blanks around it.
  have hscalar {s : List Char} (h : (splitArrayChars s).2 = false)
      (hbase : baseName (splitArrayChars s).1 = baseName t) :
      ¬ ['_'] <+: trim s ∧ baseName s = baseName t := by
    obtain ⟨hmark, -, hsplit⟩ := scalar_of_split h
    rw [hsplit, baseName_congr (trim_trim s)] at hbase
    exact ⟨hmark, hbase⟩
  induction hs with
  | self =>
    have htrim := ht.trimmed
    rw [splitArrayChars_scalar (htrim.symm ▸ ht.unmarked) (htrim.symm ▸ ht.unbracketed), htrim]
    exact ⟨rfl, rfl⟩
  | @recased isArray r s hcase _ ih =>
    have hsplit := splitArrayChars_map_toLower r
    rw [eq_of_beq hcase, splitArrayChars_map_toLower, Prod.mk.injEq] at hsplit
    exact ⟨hsplit.2.symm.trans ih.1, (baseName_recased hsplit.1.symm).trans ih.2⟩
  | padded hlead htrail _ ih =>
    rw [splitArrayChars_congr (trim_padded hlead htrail _)]
    exact ih
  | @modified s m hopen _ ih =>
    obtain ⟨hmark, hbase⟩ := hscalar ih.1 ih.2
    have htrim : trim (s ++ parenthesized m) = trimStart s ++ parenthesized m :=
      trim_append_closed (by decide) (by decide) s m
    have hunmarked : ¬ ['_'] <+: trim (s ++ parenthesized m) :=
      htrim ▸ unmarked_append (by decide) hmark _
    have hunbracketed : ¬ ['[', ']'] <:+ trim (s ++ parenthesized m) := by
      rintro ⟨u, hu⟩
      have hlast := congrArg List.getLast? (hu.trans htrim)
      simp [parenthesized, List.getLast?_cons, List.getLast?_append] at hlast
    rw [splitArrayChars_scalar hunmarked hunbracketed, baseName_congr (trim_trim _),
      baseName_modified hopen]
    exact ⟨rfl, hbase⟩
  | @marked s _ ih =>
    have htrim : trim ('_' :: s) = '_' :: trimEnd s := trim_cons (by decide) s
    rw [splitArrayChars_marked htrim, baseName_congr (trim_trimEnd s)]
    exact ⟨rfl, (hscalar ih.1 ih.2).2⟩
  | @bracketed s _ ih =>
    obtain ⟨hmark, hbase⟩ := hscalar ih.1 ih.2
    have htrim : trim (s ++ ['[', ']']) = trimStart s ++ ['[', ']'] :=
      trim_append_closed (by decide) (by decide) s []
    have hunmarked : ¬ ['_'] <+: trim (s ++ ['[', ']']) :=
      htrim ▸ unmarked_append (by decide) hmark _
    rw [splitArrayChars_bracketed hunmarked htrim, baseName_congr (trim_trimEnd _),
      baseName_congr (trim_trimStart s)]
    exact ⟨rfl, hbase⟩

end Respellings

end Classification

namespace RawColumn
open Classification
open Check (IsGap)

/-- The column with another type. -/
def withType (raw : RawColumn) (dataType : List Char) : RawColumn :=
  { raw with dataType := String.ofList dataType }

variable (raw : RawColumn) {t s : List Char} {isArray : Bool}

theorem typeKind_withType (s : List Char) :
    (raw.withType s).typeKind = kindOfName (baseName (splitArrayChars s).1) := by
  simp [typeKind, withType, FieldKind.ofType, splitArrayType]

theorem isArray_withType (s : List Char) :
    (raw.withType s).classify.isArray = (splitArrayChars s).2 := by
  simp [classify, withType]

/-- Every spelling of a known name stands for the kind of its row in the table. -/
theorem kind_of_known {row : FieldKind × List String} (hrow : row ∈ kindsOfTypes) {name : String}
    (hname : name ∈ row.2) (hs : Respelling name.toList isArray s) :
    (raw.withType s).classify.kind = row.1 := by
  have htable : ∀ row ∈ kindsOfTypes, ∀ name ∈ row.2, IsScalarName name.toList ∧
      kindOfName (baseName name.toList) = row.1 ∧ row.1 ≠ .unknown := by decide +kernel
  obtain ⟨hscalar, hkind, hknown⟩ := htable row hrow name hname
  have htype : (raw.withType s).typeKind = row.1 := by
    rw [typeKind_withType, (hs.reads hscalar).2, hkind]
  rw [classify_kind, htype, if_neg fun h => hknown h.1]

/-- A column holds the same under every spelling of its type, as an array where the spelling is one
of arrays. -/
theorem classify_respelled (ht : IsScalarName t) (hs : Respelling t isArray s) :
    (raw.withType s).classify.kind = (raw.withType t).classify.kind ∧
      (raw.withType s).classify.isArray = isArray := by
  have hspelled := hs.reads ht
  have hself := Respelling.self.reads ht
  have htype : (raw.withType s).typeKind = (raw.withType t).typeKind := by
    rw [typeKind_withType, typeKind_withType, hspelled.2, hself.2]
  refine ⟨?_, (raw.isArray_withType s).trans hspelled.1⟩
  rw [classify_kind, classify_kind, htype]
  rfl

/-- An array of a type with a modifier, in capitals and with blanks around it. -/
theorem classify_respelled_numeric :
    let raw : RawColumn :=
      ⟨"rates", "loans", .table, "public", "text", false, none, none, none, [], ["a"], 1⟩
    let t := "numeric".toList
    let s := " _NUMERIC (10,2)\n".toList
    IsScalarName t ∧ Respelling t true s ∧ (raw.withType t).classify.kind = .float ∧
      (raw.withType s).classify.kind = .float ∧ (raw.withType s).classify.isArray = true := by
  intro raw t s
  have ht : IsScalarName t := by decide
  have hs : Respelling t true s := by
    have hcase : Respelling t false "NUMERIC".toList := .recased (by decide) .self
    have hspace : Respelling t false "NUMERIC ".toList :=
      .padded (by decide : IsGap []) (by decide : IsGap [' ']) hcase
    have hmodified := hspace.modified "10,2".toList (by decide)
    exact .padded (by decide : IsGap [' ']) (by decide : IsGap ['\n']) hmodified.marked
  have hkind : (raw.withType t).classify.kind = .float := by decide +kernel
  have hrespelled := classify_respelled raw ht hs
  exact ⟨ht, hs, hkind, hrespelled.1.trans hkind, hrespelled.2⟩

end RawColumn

end ZodCatalog
