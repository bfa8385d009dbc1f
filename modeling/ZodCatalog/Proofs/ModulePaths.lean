import ZodCatalog.Files.Path
import ZodCatalog.Generator.Writer
import ZodCatalog.Proofs.IdentifierForms

/-! Names of files under the path of a directory. A name without slashes is one part more, and the
file names of modules are such names, since no character has a lower form with a slash in it. -/

namespace ZodCatalog

open Text

theorem slash_not_mem_moduleStem (table : String) : '/' ∉ (moduleStem table).toList := by
  rw [moduleStem, Casing.apply, String.toList_ofList]
  intro h
  rcases mem_joinWith h with h | ⟨piece, hpiece, h⟩
  · exact absurd h (by decide)
  · obtain ⟨w, hw, rfl⟩ := List.mem_map.1 hpiece
    refine not_mem_lowerWord (by decide) (fun hslash => ?_) h
    exact absurd (isAlphanumeric_of_mem_words hw hslash) (by decide)

namespace Path

/-- A name that stands for an entry of the directory it is put under. -/
structure IsName (name : String) : Prop where
  nonempty : name ≠ ""
  unslashed : '/' ∉ name.toList
  ne_here : name ≠ "."
  ne_above : name ≠ ".."

/-- The files of modules have such names. -/
theorem isName_module (table : String) : IsName (moduleStem table ++ ".ts") := by
  have hlength : 3 ≤ (moduleStem table ++ ".ts").toList.length := by
    rw [String.toList_append, List.length_append]
    exact Nat.le_add_left 3 _
  have hne (s : String) (h : s.toList.length < 3) : moduleStem table ++ ".ts" ≠ s := by
    rintro rfl
    exact absurd hlength (Nat.not_le.2 h)
  refine ⟨hne _ (by decide), ?_, hne _ (by decide), hne _ (by decide)⟩
  rw [String.toList_append, List.mem_append, not_or]
  exact ⟨slash_not_mem_moduleStem table, by decide⟩

theorem isName_indexFile : IsName indexFile := ⟨by decide, by decide, by decide, by decide⟩

section Join

variable {directory name : String}

theorem parts_eq_nil (h : parts directory = []) (hne : directory ≠ "") :
    isAbsolute directory = true := by
  cases hchars : directory.toList with
  | nil => exact absurd (String.toList_eq_nil_iff.1 hchars) hne
  | cons c r =>
    rw [parts, List.map_eq_nil_iff, hchars, splitOnChar, splitWhere] at h
    by_cases hc : c = '/'
    · simp [isAbsolute, hchars, hc]
    · -- A first piece with `c` in it would be a part.
      rw [if_neg (by simpa using hc)] at h
      cases hr : splitWhere (· == '/') r <;> simp [hr, pushHead] at h

theorem not_isAbsolute (h : IsName name) : isAbsolute name = false := by
  rw [isAbsolute, Bool.eq_false_iff]
  intro habsolute
  obtain ⟨r, hr⟩ := List.head?_eq_some_iff.1 (beq_iff_eq.1 habsolute)
  exact h.unslashed (hr ▸ List.mem_cons_self)

theorem join_empty (name : String) : join "" name = name := by simp [join]

/-- A name is put behind the slash at the end of a path, or behind one more. -/
theorem toList_join (h : IsName name) (hne : directory ≠ "") :
    ∃ s, (join directory name).toList = s ++ '/' :: name.toList ∧
      (directory.toList = s ∨ directory.toList = s ++ ['/']) := by
  rw [join, not_isAbsolute h]
  by_cases hslash : endsInSlash directory = true
  · obtain ⟨s, hs⟩ := List.getLast?_eq_some_iff.1 (beq_iff_eq.1 hslash)
    refine ⟨s, ?_, .inr hs⟩
    simp [hne, hslash, hs]
  · refine ⟨directory.toList, ?_, .inl rfl⟩
    simp [hne, hslash]

theorem parts_join (h : IsName name) : parts (join directory name) = parts directory ++ [name] := by
  have hpiece : splitOnChar '/' name.toList = [name.toList] := by
    refine splitWhere_of_none fun c hc => ?_
    have hne : c ≠ '/' := fun heq => h.unslashed (heq ▸ hc)
    simpa using hne
  have hname : parts name = [name] := by
    have hchars : name.toList ≠ [] := mt String.toList_eq_nil_iff.1 h.nonempty
    rw [parts, hpiece, List.filter_cons, if_pos (by simpa using hchars)]
    simp
  rcases eq_or_ne directory "" with rfl | hne
  · rw [join_empty, hname]
    rfl
  · -- A slash at the end of the directory is the one in front of the name.
    obtain ⟨s, hjoin, hdirectory⟩ := toList_join h hne
    have hcut (t : List Char) :
        splitOnChar '/' (s ++ '/' :: t) = splitOnChar '/' s ++ splitOnChar '/' t :=
      splitWhere_append_cons (p := (· == '/')) rfl s t
    have hparts : parts (join directory name) =
        ((splitOnChar '/' s).filter (!·.isEmpty)).map String.ofList ++ parts name := by
      rw [parts, hjoin, hcut, List.filter_append, List.map_append]
      rfl
    have hsame : parts directory =
        ((splitOnChar '/' s).filter (!·.isEmpty)).map String.ofList := by
      rcases hdirectory with hs | hs
      · rw [parts, hs]
      · rw [parts, hs, hcut, List.filter_append]
        simp [splitOnChar, splitWhere]
    rw [hparts, hname, hsame]

theorem isAbsolute_join (h : IsName name) :
    isAbsolute (join directory name) = isAbsolute directory := by
  rcases eq_or_ne directory "" with rfl | hne
  · rw [join_empty, not_isAbsolute h]
    rfl
  · obtain ⟨s, hjoin, hdirectory⟩ := toList_join h hne
    have hchars : directory.toList ≠ [] := mt String.toList_eq_nil_iff.1 hne
    rw [isAbsolute, isAbsolute, hjoin]
    rcases hdirectory with hs | hs
    · obtain ⟨c, r, hcons⟩ := List.exists_cons_of_ne_nil (hs ▸ hchars)
      rw [hs, hcons]
      rfl
    · rw [hs]
      cases s <;> rfl

theorem endsInSlash_join (h : IsName name) : endsInSlash (join directory name) = false := by
  have hend : ∃ s, (join directory name).toList = s ++ name.toList := by
    rcases eq_or_ne directory "" with rfl | hne
    · exact ⟨[], by rw [join_empty, List.nil_append]⟩
    · obtain ⟨s, hjoin, -⟩ := toList_join h hne
      exact ⟨s ++ ['/'], by rw [hjoin, List.append_assoc, List.singleton_append]⟩
  obtain ⟨s, hs⟩ := hend
  have hchars : name.toList ≠ [] := mt String.toList_eq_nil_iff.1 h.nonempty
  have hlast : name.toList.getLast? = some (name.toList.getLast hchars) :=
    List.getLast?_eq_some_getLast hchars
  rw [endsInSlash, hs, List.getLast?_append, hlast, Bool.eq_false_iff]
  intro hslash
  have heq : name.toList.getLast hchars = '/' := Option.some.inj (beq_iff_eq.1 hslash)
  exact h.unslashed (heq ▸ List.getLast_mem hchars)

theorem join_ne_empty (h : IsName name) : join directory name ≠ "" := by
  intro heq
  have hparts : parts (join directory name) = parts directory ++ [name] := parts_join h
  rw [heq] at hparts
  exact List.cons_ne_nil _ _ (List.append_eq_nil_iff.1 hparts.symm).2

end Join
end Path
end ZodCatalog
