import ZodCatalog.Proofs.ModulePaths

/-! The directory part of a path. A path that ends in a name has the parts of its parent and that
name, and it starts where its parent starts. -/

namespace ZodCatalog.Path

open Text

variable {path name : String}

theorem unslashed_of_mem_split {s piece : List Char} (h : piece ∈ splitOnChar '/' s) :
    '/' ∉ piece := fun hmem => by
  have hother := not_mem_of_mem_splitWhere h '/' hmem
  contradiction

theorem unslashed_of_mem_parts (h : name ∈ parts path) : '/' ∉ name.toList := by
  obtain ⟨piece, hpiece, rfl⟩ := List.mem_map.1 h
  rw [String.toList_ofList]
  exact unslashed_of_mem_split (List.mem_filter.1 hpiece).1

/-- The name of a path is its last part that is not the directory itself. -/
theorem name?_eq_some (h : name? path = some name) :
    name ∈ parts path ∧ name ≠ "." ∧ name ≠ ".." := by
  have hlast : ((parts path).filter (· != ".")).getLast? = some name ∧ name ≠ ".." := by
    unfold name? at h
    split at h
    · contradiction
    · next hne =>
      refine ⟨h, ?_⟩
      rintro rfl
      exact hne h
  obtain ⟨hmem, hhere⟩ := List.mem_filter.1 (List.mem_of_getLast? hlast.1)
  exact ⟨hmem, by simpa using hhere, hlast.2⟩

theorem name?_of_getLast? (h : (parts path).getLast? = some name) (hhere : name ≠ ".")
    (habove : name ≠ "..") : name? path = some name := by
  obtain ⟨init, hparts⟩ := List.getLast?_eq_some_iff.1 h
  have hkept : (parts path).filter (· != ".") = init.filter (· != ".") ++ [name] := by
    rw [hparts, List.filter_append]
    simp [hhere]
  unfold name?
  rw [hkept, List.getLast?_concat]
  split
  · next heq => exact absurd (Option.some.inj heq) habove
  · rfl

/-- The text of a path that ends in a name has the name for its last piece. -/
theorem exists_pieces (h : (parts path).getLast? = some name) (hslash : endsInSlash path = false) :
    ∃ above, splitOnChar '/' path.toList = above ++ [name.toList] := by
  obtain ⟨above, last, hpieces⟩ : ∃ above last, splitOnChar '/' path.toList = above ++ [last] := by
    rcases List.eq_nil_or_concat (splitOnChar '/' path.toList) with hnil | ⟨above, last, hconcat⟩
    · exact absurd hnil (splitWhere_ne_nil _ _)
    · exact ⟨above, last, by rw [hconcat, List.concat_eq_append]⟩
  have htext : joinWith ['/'] (above ++ [last]) = path.toList := by
    rw [← hpieces, joinWith_splitOnChar]
  have hlast : last ≠ [] := by
    rintro rfl
    -- With an empty piece at its end, a path ends in a slash or is empty.
    rcases eq_or_ne above [] with rfl | habove
    · rw [parts, hpieces] at h
      contradiction
    · rw [joinWith_append habove (by simp)] at htext
      rw [endsInSlash, ← htext] at hslash
      simp [joinWith] at hslash
  refine ⟨above, ?_⟩
  have hparts : parts path =
      (above.filter (!·.isEmpty)).map String.ofList ++ [String.ofList last] := by
    rw [parts, hpieces, List.filter_append]
    simp [hlast]
  rw [hparts, List.getLast?_concat] at h
  rw [hpieces, ← Option.some.inj h, String.toList_ofList]

theorem trimEnd_eq_self {above : List (List Char)}
    (h : splitOnChar '/' path.toList = above ++ [name.toList]) (hne : name ≠ "")
    (hhere : name ≠ ".") : trimEnd path = path := by
  have hdot : name.toList ≠ ['.'] := fun heq => hhere (String.toList_inj.1 heq)
  have hreverse : (splitOnChar '/' path.toList).reverse = name.toList :: above.reverse := by
    rw [h, List.reverse_concat]
  have hkept : (splitOnChar '/' path.toList).reverse.dropWhile
      (fun part => part.isEmpty || part == ['.']) = (splitOnChar '/' path.toList).reverse := by
    rw [hreverse]
    exact List.dropWhile_cons_of_neg (by simp [hne, hdot])
  rw [trimEnd, hkept, List.reverse_reverse, joinWith_splitOnChar, String.ofList_toList]

theorem parts_ofList_joinWith {pieces : List (List Char)} (hne : pieces ≠ [])
    (h : ∀ piece ∈ pieces, '/' ∉ piece) : parts (String.ofList (joinWith ['/'] pieces)) =
      (pieces.filter (!·.isEmpty)).map String.ofList := by
  rw [parts, String.toList_ofList, splitOnChar_joinWith hne h]

/-- The text of a parent: a slash if nothing else is in front of the name. -/
theorem parent_of_pieces {above : List (List Char)}
    (h : splitOnChar '/' path.toList = above ++ [name.toList]) (hne : name ≠ "")
    (hhere : name ≠ ".") :
    parent path = if above = [[]] then "/" else String.ofList (joinWith ['/'] above) := by
  have hreverse : (splitOnChar '/' path.toList).reverse = name.toList :: above.reverse := by
    rw [h, List.reverse_concat]
  rw [parent, trimEnd_eq_self h hne hhere, hreverse]
  match hpieces : above.reverse with
  | [] =>
    obtain rfl : above = [] := List.reverse_eq_nil_iff.1 hpieces
    rfl
  | [[]] =>
    obtain rfl : above = [[]] := by rw [← List.reverse_reverse above, hpieces]; rfl
    rfl
  | [c :: piece] =>
    obtain rfl : above = [c :: piece] := by rw [← List.reverse_reverse above, hpieces]; rfl
    rfl
  | last :: next :: rest =>
    have hmany : above ≠ [[]] := by
      rintro rfl
      simp at hpieces
    rw [if_neg hmany, ← List.reverse_reverse above, hpieces]
    cases last <;> rfl

theorem joinWith_slash_ne_nil {above : List (List Char)} (hnil : above ≠ [])
    (hroot : above ≠ [[]]) : joinWith ['/'] above ≠ [] := by
  match above with
  | [] => contradiction
  | [piece] =>
    rintro rfl
    contradiction
  | _ :: _ :: _ => simp [joinWith]

/-- A path that ends in a name is its parent and the name. -/
theorem parts_parent (h : (parts path).getLast? = some name) (hslash : endsInSlash path = false)
    (hhere : name ≠ ".") :
    parts path = parts (parent path) ++ [name] ∧ isAbsolute (parent path) = isAbsolute path := by
  obtain ⟨above, hpieces⟩ := exists_pieces h hslash
  have hname : name.toList ≠ [] := by
    obtain ⟨piece, hpiece, rfl⟩ := List.mem_map.1 (List.mem_of_getLast? h)
    simpa using (List.mem_filter.1 hpiece).2
  have hinside : ∀ piece ∈ above ++ [name.toList], '/' ∉ piece := by
    rw [← hpieces]
    exact fun piece => unslashed_of_mem_split
  have hparts : parts path = (above.filter (!·.isEmpty)).map String.ofList ++ [name] := by
    rw [parts, hpieces, List.filter_append]
    simp [hname]
  have htext : path.toList = joinWith ['/'] (above ++ [name.toList]) := by
    rw [← hpieces, joinWith_splitOnChar]
  rw [hparts, parent_of_pieces hpieces (mt String.toList_eq_nil_iff.2 hname) hhere, isAbsolute,
    isAbsolute, htext]
  rcases eq_or_ne above [] with rfl | hnil
  · have hhead : name.toList.head? ≠ some '/' := fun hslash =>
      hinside _ (by simp) (List.mem_of_mem_head? hslash)
    have hrelative : (name.toList.head? == some '/') = false := by simpa using hhead
    exact ⟨rfl, hrelative.symm⟩
  rcases eq_or_ne above [[]] with rfl | hroot
  · exact ⟨rfl, rfl⟩
  · have hpieces : ∀ piece ∈ above, '/' ∉ piece := fun piece hpiece =>
      hinside piece (List.mem_append_left _ hpiece)
    obtain ⟨c, r, hcons⟩ := List.exists_cons_of_ne_nil (joinWith_slash_ne_nil hnil hroot)
    rw [if_neg hroot, parts_ofList_joinWith hnil hpieces, String.toList_ofList,
      joinWith_append hnil (by simp), hcons]
    exact ⟨rfl, rfl⟩

end ZodCatalog.Path
