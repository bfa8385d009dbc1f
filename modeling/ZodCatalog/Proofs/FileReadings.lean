import ZodCatalog.Proofs.FileTrees
import ZodCatalog.Proofs.ParentPaths

/-! What is read at a path. A path leads to a name in a directory, and it leads there and reads as
before in every tree that keeps the directories on the way and the file. -/

namespace ZodCatalog

namespace FileSystem

section Reading

variable {fs after : FileSystem} {path name content : String} {parent : Location}
  {slashed : Bool}

/-- A tree that has at least the directories of another. -/
structure KeepsDirectories (fs after : FileSystem) : Prop where
  home : after.home = fs.home
  kept : ∀ place, fs.node? place = some .directory → after.node? place = some .directory

theorem KeepsDirectories.trans {mid : FileSystem} (h : fs.KeepsDirectories mid)
    (hrest : mid.KeepsDirectories after) : fs.KeepsDirectories after :=
  ⟨hrest.home.trans h.home, fun place hthere => hrest.kept place (h.kept place hthere)⟩

theorem SameDirectories.keeps (h : fs.SameDirectories after) : fs.KeepsDirectories after :=
  ⟨h.home, fun place => (h.directories place).2⟩

theorem Adds.keepsDirectories {made : List Location} (h : fs.Adds after made) :
    fs.KeepsDirectories after where
  home := h.home
  kept place hthere := by
    rw [h.node?, hthere, ite_self]

theorem KeepsDirectories.enter (h : fs.KeepsDirectories after) {here next : Location}
    {part : String} (hok : fs.enter here part = .ok next) : after.enter here part = .ok next := by
  by_cases hdots : part = "." ∨ part = ".."
  · rw [enter_of_dots hdots] at hok ⊢
    exact hok
  · rw [enter_of_name hdots] at hok ⊢
    split at hok
    · contradiction
    · next hshort =>
      rw [if_neg hshort]
      split at hok
      · next hthere => rw [h.kept _ hthere, hok]
      · contradiction
      · contradiction

theorem KeepsDirectories.foldlM_enter (h : fs.KeepsDirectories after) {parts : List String}
    {here next : Location} (hok : parts.foldlM fs.enter here = .ok next) :
    parts.foldlM after.enter here = .ok next := by
  induction parts generalizing here with
  | nil => exact hok
  | cons part rest ih =>
    rw [List.foldlM_cons] at hok ⊢
    cases hstep : fs.enter here part with
    | error e =>
      rw [hstep] at hok
      contradiction
    | ok mid =>
      rw [hstep] at hok
      rw [h.enter hstep]
      exact ih hok

/-- What it takes for a path to lead to a name. -/
structure LeadsTo (fs : FileSystem) (path : String) (parent : Location) (name : String)
    (slashed : Bool) : Prop where
  noNul : path.toList.contains '\x00' = false
  last : (Path.parts path).getLast? = some name
  entered : (Path.parts path).dropLast.foldlM fs.enter (fs.start path) = .ok parent
  ne_here : name ≠ "."
  ne_above : name ≠ ".."
  short : name.utf8ByteSize ≤ nameLimit
  slashed : Path.endsInSlash path = slashed

/-- Where the last part of a path leads from the directory in front of it. -/
def lastTarget (path : String) (parent : Location) (last : String) : Except IoError Target :=
  if last = "." then .ok (.directory parent)
  else if last = ".." then .ok (.directory parent.dropLast)
  else if nameLimit < last.utf8ByteSize then .error .nameTooLong
  else .ok (.child parent last (Path.endsInSlash path))

theorem target_eq {last : String} (hne : path ≠ "") (hnul : path.toList.contains '\x00' = false)
    (hlast : (Path.parts path).getLast? = some last) :
    fs.target path =
      (Path.parts path).dropLast.foldlM fs.enter (fs.start path) >>= (lastTarget path · last) := by
  have hempty : path.isEmpty = false := by simpa using hne
  rw [FileSystem.target, hempty, hnul, hlast]
  rfl

theorem leadsTo_of_target (h : fs.target path = .ok (.child parent name slashed)) :
    fs.LeadsTo path parent name slashed := by
  have hne : path ≠ "" := by
    rintro rfl
    contradiction
  have hnul : path.toList.contains '\x00' = false := by
    rw [Bool.eq_false_iff]
    intro hnul
    have hempty : path.isEmpty = false := by simpa using hne
    rw [FileSystem.target, hempty, hnul] at h
    contradiction
  cases hlast : (Path.parts path).getLast? with
  | none =>
    have hempty : path.isEmpty = false := by simpa using hne
    rw [FileSystem.target, hempty, hnul, hlast] at h
    cases h
  | some last =>
    rw [target_eq hne hnul hlast] at h
    cases hentered : (Path.parts path).dropLast.foldlM fs.enter (fs.start path) with
    | error e =>
      rw [hentered] at h
      contradiction
    | ok place =>
      rw [hentered] at h
      have hchild : lastTarget path place last = .ok (.child parent name slashed) := h
      unfold lastTarget at hchild
      split at hchild
      · cases hchild
      next hhere =>
      split at hchild
      · cases hchild
      next habove =>
      split at hchild
      · cases hchild
      next hshort =>
      cases hchild
      exact ⟨hnul, hlast, hentered, hhere, habove, Nat.not_lt.1 hshort, rfl⟩

theorem LeadsTo.target_eq (h : fs.LeadsTo path parent name slashed) :
    fs.target path = .ok (.child parent name slashed) := by
  have hne : path ≠ "" := by
    rintro rfl
    have hlast := h.last
    contradiction
  have hchild : lastTarget path parent name = .ok (.child parent name slashed) := by
    rw [lastTarget, if_neg h.ne_here, if_neg h.ne_above, if_neg (Nat.not_lt.2 h.short), h.slashed]
  rw [FileSystem.target_eq hne h.noNul h.last, h.entered]
  exact hchild

theorem KeepsDirectories.leadsTo (hkeeps : fs.KeepsDirectories after)
    (h : fs.LeadsTo path parent name slashed) : after.LeadsTo path parent name slashed where
  noNul := h.noNul
  last := h.last
  entered := by
    rw [start_congr hkeeps.home]
    exact hkeeps.foldlM_enter h.entered
  ne_here := h.ne_here
  ne_above := h.ne_above
  short := h.short
  slashed := h.slashed

theorem LeadsTo.name?_eq (h : fs.LeadsTo path parent name slashed) :
    Path.name? path = some name := Path.name?_of_getLast? h.last h.ne_here h.ne_above

theorem LeadsTo.read_eq (h : fs.LeadsTo path parent name slashed) :
    fs.read path = match fs.node? (parent ++ [name]) with
      | some .directory => .error .isADirectory
      | some (.file content) => if slashed then .error .notADirectory else .ok content
      | none => .error .notFound := by
  rw [FileSystem.read, find?, h.target_eq]
  cases hnode : fs.node? (parent ++ [name]) with
  | none => simp [hnode, bind, Except.bind, throw, throwThe, MonadExceptOf.throw]
  | some node =>
    cases node with
    | directory =>
      simp [hnode, bind, Except.bind, pure, Except.pure, throw, throwThe, MonadExceptOf.throw]
    | file content =>
      cases slashed <;>
        simp [hnode, bind, Except.bind, pure, Except.pure, throw, throwThe, MonadExceptOf.throw]

/-- A path that can be read leads to a file. -/
theorem exists_of_read (h : fs.read path = .ok content) : ∃ parent name,
    fs.LeadsTo path parent name false ∧ fs.node? (parent ++ [name]) = some (.file content) := by
  cases htarget : fs.target path with
  | error e =>
    rw [FileSystem.read, find?, htarget] at h
    contradiction
  | ok t =>
    cases t with
    | directory place =>
      rw [FileSystem.read, find?, htarget] at h
      contradiction
    | child parent name slashed =>
      have hleads := leadsTo_of_target htarget
      rw [hleads.read_eq] at h
      split at h
      · contradiction
      · next text hnode =>
        cases slashed with
        | true => contradiction
        | false => exact ⟨parent, name, hleads, by rw [hnode, Except.ok.inj h]⟩
      · contradiction

/-- A file is still read if the directories on the way and the file itself are kept. -/
theorem KeepsDirectories.read_eq (hkeeps : fs.KeepsDirectories after)
    (h : fs.read path = .ok content)
    (hfile : ∀ parent name, Path.name? path = some name →
      fs.node? (parent ++ [name]) = some (.file content) →
      after.node? (parent ++ [name]) = some (.file content)) : after.read path = .ok content := by
  obtain ⟨parent, name, hleads, hnode⟩ := exists_of_read h
  rw [(hkeeps.leadsTo hleads).read_eq, hfile parent name hleads.name?_eq hnode]
  rfl

theorem KeepsDirectories.resolves (hkeeps : fs.KeepsDirectories after) (h : fs.Resolves path) :
    after.Resolves path where
  short := h.short
  there place hplace := by
    rw [start_congr hkeeps.home] at hplace
    exact hkeeps.kept place (h.there place hplace)

/-- A path of directories that are there leads to a directory. -/
theorem Resolves.find?_eq (h : fs.Resolves path) (hne : path ≠ "")
    (hnul : path.toList.contains '\x00' = false) : fs.find? path = .ok .directory := by
  obtain ⟨t, htarget, hplace⟩ := h.target hne hnul
  cases t with
  | directory place =>
    rw [find?, htarget]
    rfl
  | child parent name slashed =>
    have hleads := leadsTo_of_target htarget
    obtain ⟨init, hparts⟩ := List.getLast?_eq_some_iff.1 hleads.last
    have hdots : ¬ (name = "." ∨ name = "..") := not_or.2 ⟨hleads.ne_here, hleads.ne_above⟩
    -- The last part is a name, so that the way ends at a place that it stands for.
    have hmem : fs.goal path ∈ fs.named path := by
      rw [goal, named, hparts, passed_append, List.foldl_append, passed, if_neg hdots]
      exact List.mem_append_right _ List.mem_cons_self
    have hthere : fs.node? (parent ++ [name]) = some .directory := by
      have hgoal : parent ++ [name] = fs.goal path := hplace
      rw [hgoal]
      exact h.there _ hmem
    rw [find?, htarget]
    simp only [bind, Except.bind, hthere]
    rfl

end Reading

end FileSystem
end ZodCatalog
