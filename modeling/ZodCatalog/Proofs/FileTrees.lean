import Mathlib.Data.List.Basic
import ZodCatalog.Files.System
import ZodCatalog.Proofs.KeptModules
import ZodCatalog.Proofs.ModulePaths

/-! The tree of a file system after its operations. Making the directories of a path puts one at
each place that the path names; writing a file and removing files keep all directories, so a path
that leads to a directory still leads there. -/

namespace ZodCatalog

namespace Entries

variable {κ α : Type} [BEq κ] [LawfulBEq κ]

theorem lookup_filter {p : κ × α → Bool} {entries : List (κ × α)}
    (h : (entries.map Prod.fst).Nodup) (key : κ) :
    (entries.filter p).lookup key = (entries.lookup key).filter fun value => p (key, value) := by
  induction entries with
  | nil => rfl
  | cons e es ih =>
    obtain ⟨hnone, hrest⟩ := List.nodup_cons.1 h
    by_cases hkey : key = e.1
    · subst hkey
      rw [List.lookup_cons_self, Option.filter_some, List.filter_cons]
      split
      · exact List.lookup_cons_self
      · -- No other entry has the key.
        refine List.lookup_eq_none_iff.2 fun d hd => ?_
        have hne : e.1 ≠ d.1 := fun heq =>
          hnone (heq ▸ List.mem_map_of_mem (List.mem_filter.1 hd).1)
        simpa using hne
    · rw [lookup_cons_of_ne hkey, ← ih hrest, List.filter_cons]
      split
      · rw [lookup_cons_of_ne hkey]
      · rfl

end Entries

namespace FileSystem

section Ways

/-- One step along a path, whatever is there. -/
def step (here : Location) (part : String) : Location :=
  if part = "." then here else if part = ".." then here.dropLast else here ++ [part]

/-- The places that the names of a path stand for. -/
def passed (here : Location) : List String → List Location
  | [] => []
  | part :: rest =>
    if part = "." ∨ part = ".." then passed (step here part) rest
    else step here part :: passed (step here part) rest

variable {fs fs' : FileSystem} {here place : Location} {part : String} {parts : List String}

theorem step_of_name (h : ¬ (part = "." ∨ part = "..")) : step here part = here ++ [part] := by
  rw [not_or] at h
  rw [step, if_neg h.1, if_neg h.2]

theorem enter_of_dots (h : part = "." ∨ part = "..") :
    fs.enter here part = .ok (step here part) := by
  rcases h with rfl | rfl <;> rfl

theorem enter_of_name (h : ¬ (part = "." ∨ part = "..")) :
    fs.enter here part =
      if nameLimit < part.utf8ByteSize then .error .nameTooLong
      else match fs.node? (step here part) with
        | some .directory => .ok (step here part)
        | some (.file _) => .error .notADirectory
        | none => .error .notFound := by
  rw [step_of_name h]
  rw [not_or] at h
  exact (if_neg h.1).trans (if_neg h.2)

theorem passed_append (here : Location) (xs ys : List String) :
    passed here (xs ++ ys) = passed here xs ++ passed (xs.foldl step here) ys := by
  induction xs generalizing here with
  | nil => rfl
  | cons x xs ih =>
    rw [List.cons_append, passed, passed, ih]
    split <;> rfl

theorem prefix_foldl_step (hup : ".." ∉ parts) (here : Location) :
    here <+: parts.foldl step here ∧
      ∀ place ∈ passed here parts, place <+: parts.foldl step here := by
  induction parts generalizing here with
  | nil => exact ⟨List.prefix_rfl, by simp [passed]⟩
  | cons part rest ih =>
    rw [List.mem_cons, not_or] at hup
    obtain ⟨hnext, hrest⟩ := ih hup.2 (step here part)
    have hstep : here <+: step here part := by
      rw [step]
      split
      · exact List.prefix_rfl
      · rw [if_neg (Ne.symm hup.1)]
        exact List.prefix_append here [part]
    refine ⟨hstep.trans hnext, fun place hplace => ?_⟩
    rw [passed] at hplace
    split at hplace
    · exact hrest place hplace
    · rcases List.mem_cons.1 hplace with rfl | hplace
      · exact hnext
      · exact hrest place hplace

/-- A path that can be followed from here: its names are short enough and stand for directories. -/
structure Walks (fs : FileSystem) (here : Location) (parts : List String) : Prop where
  short : ∀ part ∈ parts, part.utf8ByteSize ≤ nameLimit
  there : ∀ place ∈ passed here parts, fs.node? place = some .directory

theorem Walks.left {more : List String} (h : fs.Walks here (parts ++ more)) :
    fs.Walks here parts where
  short part hpart := h.short part (List.mem_append_left more hpart)
  there place hplace := by
    refine h.there place ?_
    rw [passed_append]
    exact List.mem_append_left _ hplace

theorem Walks.tail (h : fs.Walks here (part :: parts)) : fs.Walks (step here part) parts where
  short part hpart := h.short part (List.mem_cons_of_mem _ hpart)
  there place hplace := by
    refine h.there place ?_
    rw [passed]
    split
    · exact hplace
    · exact List.mem_cons_of_mem _ hplace

theorem Walks.enter (h : fs.Walks here (part :: parts)) :
    fs.enter here part = .ok (step here part) := by
  by_cases hdots : part = "." ∨ part = ".."
  · exact enter_of_dots hdots
  · have hthere : fs.node? (step here part) = some .directory := by
      refine h.there _ ?_
      rw [passed, if_neg hdots]
      exact List.mem_cons_self
    rw [enter_of_name hdots, if_neg (Nat.not_lt.2 (h.short part List.mem_cons_self)), hthere]

theorem Walks.foldlM_enter (h : fs.Walks here parts) :
    parts.foldlM fs.enter here = .ok (parts.foldl step here) := by
  induction parts generalizing here with
  | nil => rfl
  | cons part rest ih =>
    rw [List.foldlM_cons, h.enter]
    exact ih h.tail

/-- Directories on the way that are there are kept as they are. -/
theorem Walks.makeWay (h : fs.Walks here parts) : fs.makeWay here parts = (fs, .ok ()) := by
  induction parts generalizing here with
  | nil => rfl
  | cons part rest ih =>
    rw [FileSystem.makeWay, h.enter]
    exact ih h.tail

/-- The tree with a directory at each of some places. -/
structure Makes (fs after : FileSystem) (places : List Location) : Prop where
  home : after.home = fs.home
  nodup : (fs.nodes.map Prod.fst).Nodup → (after.nodes.map Prod.fst).Nodup
  node? : ∀ place, after.node? place =
    if place ∈ places then some .directory else fs.node? place

theorem Makes.trans {mid after : FileSystem} {xs ys : List Location} (h : fs.Makes mid xs)
    (hrest : mid.Makes after ys) : fs.Makes after (xs ++ ys) where
  home := hrest.home.trans h.home
  nodup := hrest.nodup ∘ h.nodup
  node? place := by
    rw [hrest.node?, h.node?]
    simp only [List.mem_append]
    by_cases hys : place ∈ ys
    · rw [if_pos hys, if_pos (.inr hys)]
    · simp only [hys, or_false, if_false]

theorem makes_put (h : here ≠ []) : fs.Makes (fs.put here .directory) [here] where
  home := rfl
  nodup := Entries.nodup_put _
  node? place := by
    simp only [List.mem_singleton]
    split
    · rename_i heq
      rw [heq, node?_put_self fs h]
    · rename_i hne
      exact node?_put_of_ne fs hne _

theorem makes_self (h : fs.node? here = some .directory) : fs.Makes fs [here] where
  home := rfl
  nodup := id
  node? place := by
    simp only [List.mem_singleton]
    split
    · rename_i heq
      rw [heq, h]
    · rfl

/-- The tree with a directory at each of some places, none of which was a file. -/
structure Adds (fs after : FileSystem) (places : List Location) : Prop
    extends Makes fs after places where
  free : ∀ place ∈ places, ∀ content, fs.node? place ≠ some (.file content)

theorem Adds.trans {mid after : FileSystem} {xs ys : List Location} (h : fs.Adds mid xs)
    (hrest : mid.Adds after ys) : fs.Adds after (xs ++ ys) where
  toMakes := h.toMakes.trans hrest.toMakes
  free place hplace content hfile := by
    rcases List.mem_append.1 hplace with hxs | hys
    · exact h.free place hxs content hfile
    · by_cases hxs : place ∈ xs
      · exact h.free place hxs content hfile
      · refine hrest.free place hys content ?_
        rw [h.node?, if_neg hxs, hfile]

theorem adds_nil (fs : FileSystem) : fs.Adds fs [] where
  home := rfl
  nodup := id
  node? place := by simp
  free := by simp

theorem adds_put (hne : here ≠ []) (h : fs.node? here = none) :
    fs.Adds (fs.put here .directory) [here] where
  toMakes := makes_put hne
  free place hplace content := by
    rw [List.mem_singleton.1 hplace, h]
    exact nofun

theorem adds_self (h : fs.node? here = some .directory) : fs.Adds fs [here] where
  toMakes := makes_self h
  free place hplace content := by
    rw [List.mem_singleton.1 hplace, h]
    exact nofun

/-- How making a way can end: with directories at the first places that it names, and at all of them
unless it failed. -/
structure MadeWay (fs : FileSystem) (here : Location) (parts : List String)
    (result : FileSystem × Except IoError Unit) (made : List Location) : Prop where
  front : made <+: passed here parts
  adds : fs.Adds result.1 made
  complete : result.2 = .ok () →
    made = passed here parts ∧ ∀ part ∈ parts, part.utf8ByteSize ≤ nameLimit

theorem MadeWay.stopped (e : IoError) : fs.MadeWay here parts (fs, .error e) [] where
  front := List.nil_prefix
  adds := fs.adds_nil
  complete := nofun

theorem MadeWay.dots {result : FileSystem × Except IoError Unit} {made : List Location}
    (hdots : part = "." ∨ part = "..") (h : fs.MadeWay (step here part) parts result made) :
    fs.MadeWay here (part :: parts) result made := by
  have hshort : part.utf8ByteSize ≤ nameLimit := by rcases hdots with rfl | rfl <;> decide
  have hpassed : passed here (part :: parts) = passed (step here part) parts := by
    rw [passed, if_pos hdots]
  refine ⟨?_, h.adds, fun hok => ?_⟩
  · rw [hpassed]
    exact h.front
  · rw [hpassed]
    exact ⟨(h.complete hok).1, List.forall_mem_cons.2 ⟨hshort, (h.complete hok).2⟩⟩

theorem MadeWay.name {mid : FileSystem} {result : FileSystem × Except IoError Unit}
    {made : List Location} (hdots : ¬ (part = "." ∨ part = ".."))
    (hshort : part.utf8ByteSize ≤ nameLimit) (hmid : fs.Adds mid [step here part])
    (h : mid.MadeWay (step here part) parts result made) :
    fs.MadeWay here (part :: parts) result (step here part :: made) := by
  have hpassed : passed here (part :: parts) =
      step here part :: passed (step here part) parts := by rw [passed, if_neg hdots]
  refine ⟨?_, hmid.trans h.adds, fun hok => ?_⟩
  · rw [hpassed]
    exact (List.prefix_cons_inj _).2 h.front
  · rw [hpassed, (h.complete hok).1]
    exact ⟨rfl, List.forall_mem_cons.2 ⟨hshort, (h.complete hok).2⟩⟩

theorem exists_madeWay (fs : FileSystem) (here : Location) (parts : List String) :
    ∃ made, fs.MadeWay here parts (fs.makeWay here parts) made := by
  induction parts generalizing fs here with
  | nil => exact ⟨[], List.nil_prefix, fs.adds_nil, fun _ => ⟨rfl, by simp⟩⟩
  | cons part rest ih =>
    rw [makeWay]
    by_cases hdots : part = "." ∨ part = ".."
    · rw [enter_of_dots hdots]
      obtain ⟨made, hmade⟩ := ih fs (step here part)
      exact ⟨made, hmade.dots hdots⟩
    rw [enter_of_name hdots]
    by_cases hlong : nameLimit < part.utf8ByteSize
    · rw [if_pos hlong]
      exact ⟨[], .stopped _⟩
    have hnext : step here part = here ++ [part] := step_of_name hdots
    rw [if_neg hlong]
    -- A name is made if it is missing, passed if it is a directory, and refused if it is a file.
    cases hthere : fs.node? (step here part) with
    | none =>
      have hne : step here part ≠ [] := by rw [hnext]; simp
      rw [← hnext]
      obtain ⟨made, hmade⟩ := ih (fs.put (step here part) .directory) (step here part)
      exact ⟨_, hmade.name hdots (Nat.not_lt.1 hlong) (adds_put hne hthere)⟩
    | some node =>
      cases node with
      | file content => exact ⟨[], .stopped _⟩
      | directory =>
        obtain ⟨made, hmade⟩ := ih fs (step here part)
        exact ⟨_, hmade.name hdots (Nat.not_lt.1 hlong) (adds_self hthere)⟩

/-- A way that could be made has a directory at each place it names, and nothing else changed. -/
theorem makeWay_makes (h : (fs.makeWay here parts).2 = .ok ()) :
    fs.Makes (fs.makeWay here parts).1 (passed here parts) ∧
      ∀ part ∈ parts, part.utf8ByteSize ≤ nameLimit := by
  obtain ⟨made, hmade⟩ := exists_madeWay fs here parts
  obtain ⟨rfl, hshort⟩ := hmade.complete h
  exact ⟨hmade.adds.toMakes, hshort⟩

end Ways

/-- What a target stands for. -/
def Target.place : Target → Location
  | directory place => place
  | child parent name _ => parent ++ [name]

section Paths

variable {fs fs' : FileSystem} {path name : String} {place : Location}

theorem start_congr (h : fs'.home = fs.home) (path : String) : fs'.start path = fs.start path := by
  rw [start, start, h]

/-- The directory that a path leads to once all that it names are there. -/
def goal (fs : FileSystem) (path : String) : Location :=
  (Path.parts path).foldl step (fs.start path)

/-- The places of the directories that a path names. -/
def named (fs : FileSystem) (path : String) : List Location :=
  passed (fs.start path) (Path.parts path)

theorem goal_congr (h : fs'.home = fs.home) (path : String) : fs'.goal path = fs.goal path := by
  rw [goal, goal, start_congr h]

theorem named_congr (h : fs'.home = fs.home) (path : String) : fs'.named path = fs.named path := by
  rw [named, named, start_congr h]

/-- A path of directories that are there. -/
def Resolves (fs : FileSystem) (path : String) : Prop := fs.Walks (fs.start path) (Path.parts path)

/-- Without steps up, a path names only places on the way to its directory. -/
theorem prefix_goal_of_mem_named (hup : ".." ∉ Path.parts path) (h : place ∈ fs.named path) :
    place <+: fs.goal path := (prefix_foldl_step hup _).2 place h

/-- The directories that were made, and that the path leads through them now. -/
theorem makeDirectories_makes (h : (fs.makeDirectories path).2 = .ok ()) :
    fs.Makes (fs.makeDirectories path).1 (fs.named path) ∧
      (fs.makeDirectories path).1.Resolves path ∧ path.toList.contains '\x00' = false := by
  rw [makeDirectories] at h ⊢
  by_cases hnul : path.toList.contains '\x00' = true
  · rw [if_pos hnul] at h
    contradiction
  rw [if_neg hnul] at h ⊢
  obtain ⟨hmakes, hshort⟩ := makeWay_makes h
  have hstart := start_congr hmakes.home path
  refine ⟨hmakes, ⟨hshort, fun place hplace => ?_⟩, Bool.eq_false_iff.2 hnul⟩
  rw [hstart] at hplace
  rw [hmakes.node?, if_pos hplace]

theorem Resolves.makeDirectories (h : fs.Resolves path)
    (hnul : path.toList.contains '\x00' = false) :
    fs.makeDirectories path = (fs, .ok ()) := by
  rw [FileSystem.makeDirectories, hnul]
  exact h.makeWay

theorem Resolves.target (h : fs.Resolves path) (hne : path ≠ "")
    (hnul : path.toList.contains '\x00' = false) :
    ∃ t, fs.target path = .ok t ∧ t.place = fs.goal path := by
  have hempty : path.isEmpty = false := by simpa using hne
  rw [FileSystem.target, hempty, hnul, goal]
  rcases List.eq_nil_or_concat (Path.parts path) with hparts | ⟨init, last, hparts⟩
  · have hroot : fs.start path = [] := by rw [start, Path.parts_eq_nil hparts hne]; rfl
    rw [hparts]
    exact ⟨.directory [], rfl, hroot.symm⟩
  · rw [List.concat_eq_append] at hparts
    rw [Resolves, hparts] at h
    have hshort : last.utf8ByteSize ≤ nameLimit := h.short last (by simp)
    rw [hparts, List.getLast?_concat, List.dropLast_concat, h.left.foldlM_enter, List.foldl_append]
    show ∃ t : Target, (if last = "." then _ else _) = _ ∧ t.place = step _ last
    rw [step]
    split
    · exact ⟨_, rfl, rfl⟩
    split
    · exact ⟨_, rfl, rfl⟩
    · rw [if_neg (Nat.not_lt.2 hshort)]
      exact ⟨_, rfl, rfl⟩

/-- Two systems with the same directories. -/
structure SameDirectories (fs fs' : FileSystem) : Prop where
  home : fs'.home = fs.home
  directories : ∀ place, fs'.node? place = some .directory ↔ fs.node? place = some .directory

theorem SameDirectories.trans {fs'' : FileSystem} (h : fs.SameDirectories fs')
    (h' : fs'.SameDirectories fs'') : fs.SameDirectories fs'' :=
  ⟨h'.home.trans h.home, fun place => (h'.directories place).trans (h.directories place)⟩

theorem SameDirectories.symm (h : fs.SameDirectories fs') : fs'.SameDirectories fs :=
  ⟨h.home.symm, fun place => (h.directories place).symm⟩

theorem SameDirectories.refl (fs : FileSystem) : fs.SameDirectories fs := ⟨rfl, fun _ => Iff.rfl⟩

theorem Resolves.same (h : fs.Resolves path) (hsame : fs.SameDirectories fs') :
    fs'.Resolves path where
  short := h.short
  there place hplace := by
    rw [start_congr hsame.home] at hplace
    exact (hsame.directories place).2 (h.there place hplace)

theorem sameDirectories_put_file (hne : place ≠ []) (h : fs.node? place ≠ some .directory)
    (content : String) : fs.SameDirectories (fs.put place (.file content)) where
  home := rfl
  directories other := by
    by_cases heq : other = place
    · rw [heq, node?_put_self fs hne]
      exact iff_of_false nofun h
    · rw [node?_put_of_ne fs heq]

/-- The tree without the files of a directory whose names have an ending. -/
def without (fs : FileSystem) (directory : Location) (ending : String) : FileSystem :=
  { fs with nodes := fs.nodes.filter (!hasEndingIn directory ending ·) }

theorem node?_without (hnodup : (fs.nodes.map Prod.fst).Nodup) (directory : Location)
    (ending : String) (place : Location) : (fs.without directory ending).node? place =
      (fs.node? place).filter fun node => !hasEndingIn directory ending (place, node) := by
  rw [node?, node?]
  split
  · rfl
  · exact Entries.lookup_filter hnodup place

theorem sameDirectories_without (hnodup : (fs.nodes.map Prod.fst).Nodup) (directory : Location)
    (ending : String) : fs.SameDirectories (fs.without directory ending) where
  home := rfl
  directories place := by
    rw [node?_without hnodup, Option.filter_eq_some_iff]
    exact and_iff_left rfl

theorem nodup_without (hnodup : (fs.nodes.map Prod.fst).Nodup) (directory : Location)
    (ending : String) : ((fs.without directory ending).nodes.map Prod.fst).Nodup :=
  hnodup.sublist (List.filter_sublist.map _)

/-- Removing succeeds in a directory that is there, by any path but the empty one. -/
theorem Resolves.removeEnding_eq (h : fs.Resolves path) (hne : path ≠ "")
    (hnul : path.toList.contains '\x00' = false) (ending : String) :
    fs.removeEnding path ending =
      match fs.node? (fs.goal path) with
      | some .directory => (fs.without (fs.goal path) ending, .ok ())
      | some (.file _) => (fs, .error .notADirectory)
      | none => (fs, .error .notFound) := by
  obtain ⟨t, ht, hplace⟩ := h.target hne hnul
  rw [removeEnding, ht, ← hplace]
  cases t <;> rfl

theorem Resolves.removeEnding_eq_ok_iff (h : fs.Resolves path)
    (hnul : path.toList.contains '\x00' = false) {ending : String} {after : FileSystem} :
    fs.removeEnding path ending = (after, .ok ()) ↔
      (path ≠ "" ∧ fs.node? (fs.goal path) = some .directory) ∧
        after = fs.without (fs.goal path) ending := by
  rcases eq_or_ne path "" with rfl | hne
  · exact iff_of_false nofun fun hok => hok.1.1 rfl
  · rw [h.removeEnding_eq hne hnul]
    cases fs.node? (fs.goal path) with
    | none => simp
    | some node => cases node <;> simp [hne, eq_comm]

/-- Whether a file of that name can be written in the directory of a path. -/
structure Accepts (fs : FileSystem) (path name : String) : Prop where
  noNul : (Path.join path name).toList.contains '\x00' = false
  short : name.utf8ByteSize ≤ nameLimit
  free : fs.node? (fs.goal path ++ [name]) ≠ some .directory

theorem Accepts.same (h : fs.Accepts path name) (hsame : fs.SameDirectories fs') :
    fs'.Accepts path name where
  noNul := h.noNul
  short := h.short
  free := by
    rw [goal_congr hsame.home]
    exact mt (hsame.directories _).1 h.free

/-- A name leads to an entry of the directory that the path in front of it leads to. -/
theorem target_join (hname : Path.IsName name) : fs.target (Path.join path name) =
    if (Path.join path name).toList.contains '\x00' then .error .nulInPath
    else do
      let parent ← (Path.parts path).foldlM fs.enter (fs.start path)
      if nameLimit < name.utf8ByteSize then throw .nameTooLong
      return .child parent name false := by
  have hempty : (Path.join path name).isEmpty = false := by simpa using Path.join_ne_empty hname
  have hstart : fs.start (Path.join path name) = fs.start path := by
    rw [start, start, Path.isAbsolute_join hname]
  rw [FileSystem.target, hempty, Path.parts_join hname, List.getLast?_concat, List.dropLast_concat,
    hstart, Path.endsInSlash_join hname]
  cases (Path.join path name).toList.contains '\x00' with
  | true => rfl
  | false =>
    simp only [hname.ne_here, hname.ne_above]
    rfl

theorem Resolves.filePlace_join (h : fs.Resolves path) (hname : Path.IsName name)
    {place : Location} : fs.filePlace (Path.join path name) = .ok place ↔
      fs.Accepts path name ∧ place = fs.goal path ++ [name] := by
  have hparent : (Path.parts path).foldlM fs.enter (fs.start path) = .ok (fs.goal path) :=
    h.foldlM_enter
  rw [filePlace, target_join hname, hparent]
  cases hnul : (Path.join path name).toList.contains '\x00' with
  | true => exact iff_of_false nofun fun hok => Bool.false_ne_true (hok.1.noNul.symm.trans hnul)
  | false =>
    by_cases hlong : nameLimit < name.utf8ByteSize
    · simp only [hlong, if_true]
      exact iff_of_false nofun fun hok => Nat.not_lt.2 hok.1.short hlong
    · simp only [hlong, if_false]
      show (if (fs.node? (fs.goal path ++ [name]) == some .directory) = true
        then (.error .isADirectory : Except IoError Location)
        else .ok (fs.goal path ++ [name])) = .ok place ↔ _
      by_cases hfree : fs.node? (fs.goal path ++ [name]) = some .directory
      · rw [if_pos (beq_iff_eq.2 hfree)]
        exact iff_of_false nofun fun hok => hok.1.free hfree
      · have haccepts : fs.Accepts path name := ⟨hnul, Nat.not_lt.1 hlong, hfree⟩
        rw [if_neg (mt beq_iff_eq.1 hfree), and_iff_right haccepts, Except.ok.injEq, eq_comm]

/-- Writing puts a file under its name in the directory of a path. -/
theorem Resolves.write_join (h : fs.Resolves path) (hname : Path.IsName name) (content : String) :
    (fs.Accepts path name ∧ fs.write (Path.join path name) content =
        (fs.put (fs.goal path ++ [name]) (.file content), .ok ())) ∨
      ¬ fs.Accepts path name ∧ ∃ e, fs.write (Path.join path name) content = (fs, .error e) := by
  rw [write]
  cases hplace : fs.filePlace (Path.join path name) with
  | ok place =>
    obtain ⟨haccepts, rfl⟩ := (h.filePlace_join hname).1 hplace
    exact .inl ⟨haccepts, rfl⟩
  | error e =>
    refine .inr ⟨fun haccepts => ?_, e, rfl⟩
    exact absurd (hplace.symm.trans ((h.filePlace_join hname).2 ⟨haccepts, rfl⟩)) nofun

end Paths

section Files

variable {fs : FileSystem} {directory place : Location} {name : String}

/-- The file that a place stands for if files are put in a directory. -/
def fileAt (directory : Location) (files : List (String × String)) (place : Location) :
    Option String :=
  if place.dropLast = directory then place.getLast?.bind (files.lookup ·) else none

theorem fileAt_concat (directory : Location) (files : List (String × String)) (name : String) :
    fileAt directory files (directory ++ [name]) = files.lookup name := by
  rw [fileAt, List.dropLast_concat, if_pos rfl, List.getLast?_concat, Option.bind_some]

theorem fileAt_nil (directory place : Location) : fileAt directory [] place = none := by
  rw [fileAt]
  split
  · cases place.getLast? <;> rfl
  · rfl

theorem fileAt_put_of_ne (h : place ≠ directory ++ [name]) (content : String)
    (files : List (String × String)) :
    fileAt directory (Entries.put name content files) place = fileAt directory files place := by
  rw [fileAt, fileAt]
  split
  · rename_i hdirectory
    cases hlast : place.getLast? with
    | none => rfl
    | some last =>
      have hne : last ≠ name := by
        rintro rfl
        obtain ⟨init, rfl⟩ := List.getLast?_eq_some_iff.1 hlast
        exact h (by rw [← hdirectory, List.dropLast_concat])
      rw [Option.bind_some, Option.bind_some, Entries.lookup_put_of_ne hne]
  · rfl

/-- Puts files under their names in a directory. -/
def putFiles (fs : FileSystem) (directory : Location) (entries : List (String × String)) :
    FileSystem :=
  entries.foldl (fun fs e => fs.put (directory ++ [e.1]) (.file e.2)) fs

theorem nodup_putFiles (h : (fs.nodes.map Prod.fst).Nodup) (entries : List (String × String)) :
    ((fs.putFiles directory entries).nodes.map Prod.fst).Nodup := by
  induction entries generalizing fs with
  | nil => exact h
  | cons e es ih => exact ih (Entries.nodup_put _ h)

theorem node?_putFiles {base : Option Node} {files : List (String × String)}
    (entries : List (String × String))
    (h : fs.node? place = ((fileAt directory files place).map Node.file <|> base)) :
    (fs.putFiles directory entries).node? place =
      ((fileAt directory (Entries.putAll entries files) place).map Node.file <|> base) := by
  induction entries generalizing fs files with
  | nil => exact h
  | cons e es ih =>
    refine ih ?_
    by_cases heq : place = directory ++ [e.1]
    · subst heq
      rw [node?_put_self fs (by simp), fileAt_concat, Entries.lookup_put_self]
      rfl
    · rw [node?_put_of_ne fs heq, fileAt_put_of_ne heq, h]

end Files
end FileSystem
end ZodCatalog
