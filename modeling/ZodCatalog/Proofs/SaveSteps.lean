import ZodCatalog.Files.Atomic
import ZodCatalog.Proofs.FileReadings

/-! The ways in which saving a file can end. Each step leads to the next or ends the save, whether
it is refused or the tree rules it out, and what the steps before it did is not taken back. -/

namespace ZodCatalog

namespace Path

variable {path name : String}

/-- The file beside a path has a name in the same directory. -/
theorem isName_temporary (h : name? path = some name) : IsName (name ++ ".tmp") := by
  have hname := unslashed_of_mem_parts (name?_eq_some h).1
  have hlength : 2 < (name ++ ".tmp").length := by
    rw [String.length_append]
    exact Nat.lt_of_lt_of_le (by decide : 2 < ".tmp".length) (Nat.le_add_left _ _)
  have hne (s : String) (hs : s.length ≤ 2) : name ++ ".tmp" ≠ s := by
    rintro rfl
    exact absurd hlength (Nat.not_lt.2 hs)
  refine ⟨hne _ (by decide), ?_, hne _ (by decide), hne _ (by decide)⟩
  rw [String.toList_append, List.mem_append, not_or]
  exact ⟨hname, by decide⟩

end Path

namespace FileSystem

section Saving

variable {fs after : FileSystem} {path name content : String} {refused : Refusals}

/-- The place of a name in the directory that holds a path. -/
def entry (fs : FileSystem) (path name : String) : Location :=
  fs.goal (Path.parent path) ++ [name]

theorem entry_ne_nil (fs : FileSystem) (path name : String) : fs.entry path name ≠ [] := by
  simp [entry]

theorem entry_inj {other : String} : fs.entry path name = fs.entry path other ↔ name = other := by
  simp [entry]

/-- The path of the file beside a path with a name. -/
def beside (path name : String) : String := Path.withName path (name ++ ".tmp")

theorem temporaryPath?_eq (h : Path.name? path = some name) :
    temporaryPath? path = some (beside path name) := by
  rw [temporaryPath?, h, Option.map_some, beside]

/-- How making the directory that is to hold a path can end: with the first directories that it
names, and with all of them unless it failed. -/
structure ParentMade (fs : FileSystem) (path : String) (result : FileSystem × Except IoError Unit)
    (made : List Location) : Prop where
  front : made <+: fs.named (Path.parent path)
  adds : fs.Adds result.1 made
  complete : result.2 = .ok () → made = fs.named (Path.parent path) ∧
    result.1.Resolves (Path.parent path) ∧ (Path.parent path).toList.contains '\x00' = false

theorem ParentMade.failed {made : List Location} (front : made <+: fs.named (Path.parent path))
    (adds : fs.Adds after made) (e : IoError) : fs.ParentMade path (after, .error e) made where
  front
  adds
  complete := nofun

theorem ParentMade.stopped (e : IoError) : fs.ParentMade path (fs, .error e) [] :=
  .failed List.nil_prefix fs.adds_nil e

theorem parentMade_empty (h : Path.parent path = "") : fs.ParentMade path (fs, .ok ()) [] := by
  refine ⟨List.nil_prefix, fs.adds_nil, fun _ => ?_⟩
  rw [h]
  exact ⟨rfl, ⟨nofun, nofun⟩, by decide⟩

theorem exists_parentMade_all (fs : FileSystem) (path : String) :
    ∃ made, fs.ParentMade path (fs.makeDirectories (Path.parent path)) made := by
  by_cases hnul : (Path.parent path).toList.contains '\x00' = true
  · rw [makeDirectories, if_pos hnul]
    exact ⟨[], .stopped _⟩
  · have hway : fs.makeDirectories (Path.parent path) =
        fs.makeWay (fs.start (Path.parent path)) (Path.parts (Path.parent path)) := by
      rw [makeDirectories, if_neg hnul]
    obtain ⟨made, hmade⟩ :=
      exists_madeWay fs (fs.start (Path.parent path)) (Path.parts (Path.parent path))
    rw [← hway] at hmade
    exact ⟨made, hmade.front, hmade.adds, fun hok =>
      ⟨(hmade.complete hok).1, (makeDirectories_makes hok).2⟩⟩

/-- A way of which only the first parts are made. -/
theorem exists_parentMade_some (fs : FileSystem) (path : String) (count : Nat) (e : IoError) :
    ∃ made, fs.ParentMade path ((fs.makeWay (fs.start (Path.parent path))
      ((Path.parts (Path.parent path)).take count)).1, .error e) made := by
  obtain ⟨made, hmade⟩ := exists_madeWay fs (fs.start (Path.parent path))
    ((Path.parts (Path.parent path)).take count)
  have hfront : passed (fs.start (Path.parent path))
      ((Path.parts (Path.parent path)).take count) <+: fs.named (Path.parent path) := by
    rw [named]
    conv_rhs => rw [← List.take_append_drop count (Path.parts (Path.parent path)), passed_append]
    exact List.prefix_append _ _
  exact ⟨made, .failed (hmade.front.trans hfront) hmade.adds e⟩

theorem exists_parentMade (fs : FileSystem) (path : String) (refused : Option (Nat × IoError)) :
    ∃ made, fs.ParentMade path (makeParent path refused fs) made := by
  simp only [makeParent]
  split
  · next hempty => exact ⟨[], parentMade_empty (by simpa using hempty)⟩
  cases refused with
  | none => exact fs.exists_parentMade_all path
  | some refusal =>
    simp only
    split
    · exact ⟨[], .stopped _⟩
    · exact fs.exists_parentMade_some path refusal.1 refusal.2

/-- A file is moved as a whole, or nothing is. -/
theorem renameFile_cases (fs : FileSystem) (source destination : String) :
    (∃ e, fs.renameFile source destination = (fs, .error e)) ∨
    ∃ place parent name node, fs.filePlace source = .ok place ∧
      fs.LeadsTo destination parent name false ∧ fs.node? place = some node ∧
      fs.node? (parent ++ [name]) ≠ some .directory ∧
      fs.renameFile source destination =
        ((fs.erase place).put (parent ++ [name]) node, .ok ()) := by
  unfold renameFile
  split
  · exact .inl ⟨_, rfl⟩
  · exact .inl ⟨_, rfl⟩
  · exact .inl ⟨_, rfl⟩
  next place parent name slashed hplace htarget =>
  split
  · exact .inl ⟨_, rfl⟩
  next node hnode =>
  split
  · exact .inl ⟨_, rfl⟩
  next hslashed =>
  split
  · exact .inl ⟨_, rfl⟩
  next hfree =>
  obtain rfl : slashed = false := Bool.eq_false_iff.2 hslashed
  exact .inr ⟨place, parent, name, node, hplace, leadsTo_of_target htarget, hnode, hfree, rfl⟩

theorem fitting_prefix (room : Nat) (s : List Char) : fitting room s <+: s := by
  induction s generalizing room with
  | nil => exact List.nil_prefix
  | cons c s ih =>
    rw [fitting]
    split
    · exact (List.prefix_cons_inj c).2 (ih _)
    · exact List.nil_prefix

theorem utf8ByteSize_fitting_le (room : Nat) (s : List Char) :
    (String.ofList (fitting room s)).utf8ByteSize ≤ room := by
  induction s generalizing room with
  | nil => exact Nat.zero_le room
  | cons c s ih =>
    rw [fitting]
    split
    · have hrest := ih (room - c.utf8Size)
      rw [String.ofList_cons, String.utf8ByteSize_append, String.utf8ByteSize_singleton]
      omega
    · exact Nat.zero_le room

/-- Of a text that does not fit, only a part does. -/
theorem fitting_ne {room : Nat} (h : room < content.utf8ByteSize) :
    fitting room content.toList ≠ content.toList := by
  intro hall
  have hsize := utf8ByteSize_fitting_le room content.toList
  rw [hall, String.ofList_toList] at hsize
  exact Nat.not_lt.2 hsize h

/-- The directories on the way to a path are there, and its name has room for a file beside it. -/
structure Prepared (fs ready : FileSystem) (path name : String) : Prop where
  adds : fs.Adds ready (fs.named (Path.parent path))
  resolves : ready.Resolves (Path.parent path)
  noNul : (Path.parent path).toList.contains '\x00' = false
  name_eq : Path.name? path = some name
  accepts : ready.Accepts (Path.parent path) (name ++ ".tmp")

theorem Prepared.goal_eq {ready : FileSystem} (h : fs.Prepared ready path name) :
    ready.goal (Path.parent path) = fs.goal (Path.parent path) := goal_congr h.adds.home _

theorem Prepared.free {ready : FileSystem} (h : fs.Prepared ready path name) :
    ready.node? (fs.entry path (name ++ ".tmp")) ≠ some .directory := by
  rw [entry, ← h.goal_eq]
  exact h.accepts.free

/-- Why a text is left beside a path: only a part of the content could be written, or all of it is
there and could not be synced or not be moved. -/
inductive Leaves (refused : Refusals) (after : FileSystem) (temporary path content : String)
    (cause : IoError) : String → Prop
  | torn {room : Nat} (hroom : refused.writing = some (room, cause))
      (hlong : room < content.utf8ByteSize) : Leaves refused after temporary path content cause
        (String.ofList (fitting room content.toList))
  | whole (hwhy : refused.syncing = some cause ∨ refused.moving = some cause ∨
      after.renameFile temporary path = (after, .error cause)) :
      Leaves refused after temporary path content cause content

/-- The tree once the file beside a path was moved into its place. -/
def movedInto (fs written : FileSystem) (path name content : String) : FileSystem :=
  (written.erase (fs.entry path (name ++ ".tmp"))).put (fs.entry path name) (.file content)

/-- The ways in which saving a file can end. Directories on the way may be there; beside the file
may be what was written of the content, and in its place the content if it could be moved. -/
inductive Saving (fs : FileSystem) (path content : String) (refused : Refusals) :
    FileSystem → Except SaveError Unit → Prop
  | stopped {after : FileSystem} {made : List Location}
      (hmade : made <+: fs.named (Path.parent path)) (hadds : fs.Adds after made)
      (e : SaveError) : Saving fs path content refused after (.error e)
  | left {ready after : FileSystem} {name part : String} {cause : IoError}
      (hready : fs.Prepared ready path name)
      (hafter : after = ready.put (fs.entry path (name ++ ".tmp")) (.file part))
      (hwhy : Leaves refused after (beside path name) path content cause part) :
      Saving fs path content refused after (.error (.io cause))
  | replaced {ready written : FileSystem} {name : String} {result : Except SaveError Unit}
      (hready : fs.Prepared ready path name)
      (hwritten : written = ready.put (fs.entry path (name ++ ".tmp")) (.file content))
      (hleads : written.LeadsTo path (fs.goal (Path.parent path)) name false)
      (hfree : written.node? (fs.entry path name) ≠ some .directory)
      -- Behind the move, only the directory of the file can make the save fail.
      (hresult : result = .ok () ∨
        ∃ cause, refused.syncingParent = some cause ∧ result = .error (.io cause)) :
      Saving fs path content refused (fs.movedInto written path name content) result

section Written

variable {ready written : FileSystem} (hready : fs.Prepared ready path name)
  (hwritten : written = ready.put (fs.entry path (name ++ ".tmp")) (.file content))

include hwritten in
theorem node?_temporary :
    written.node? (fs.entry path (name ++ ".tmp")) = some (.file content) := by
  rw [hwritten]
  exact node?_put_self ready (fs.entry_ne_nil _ _) _

include hready hwritten

theorem Prepared.sameDirectories : ready.SameDirectories written := by
  rw [hwritten]
  exact sameDirectories_put_file (fs.entry_ne_nil _ _) hready.free content

/-- The file beside a path is what is moved. -/
theorem Prepared.place_eq {place : Location}
    (h : written.filePlace (beside path name) = .ok place) :
    place = fs.entry path (name ++ ".tmp") := by
  have hname := Path.isName_temporary hready.name_eq
  have hsame := hready.sameDirectories hwritten
  have hhome : written.home = fs.home := hsame.home.trans hready.adds.home
  rw [entry, ← goal_congr hhome]
  exact (((hready.resolves.same hsame).filePlace_join hname).1 h).2

/-- A path that can be moved to leads to its name in its directory. -/
theorem Prepared.parent_eq {parent : Location} {last : String}
    (h : written.LeadsTo path parent last false) :
    parent = fs.goal (Path.parent path) ∧ last = name := by
  have hsame := hready.sameDirectories hwritten
  have hhome : written.home = fs.home := hsame.home.trans hready.adds.home
  obtain ⟨hparts, habsolute⟩ := Path.parts_parent h.last h.slashed h.ne_here
  have hstart : written.start path = written.start (Path.parent path) := by
    rw [start, start, habsolute]
  have hentered : (Path.parts (Path.parent path)).foldlM written.enter
      (written.start (Path.parent path)) = .ok (written.goal (Path.parent path)) :=
    (hready.resolves.same hsame).foldlM_enter
  have hparent := h.entered
  rw [hparts, List.dropLast_concat, hstart, hentered] at hparent
  refine ⟨?_, Option.some.inj (h.name?_eq.symm.trans hready.name_eq)⟩
  rw [← goal_congr hhome]
  exact (Except.ok.inj hparent).symm

omit hready in
theorem movedInto_keeps (hfree : written.node? (fs.entry path name) ≠ some .directory) :
    written.KeepsDirectories (fs.movedInto written path name content) := by
  refine ⟨rfl, fun place hthere => ?_⟩
  have hne : place ≠ fs.entry path name := fun heq => hfree (heq ▸ hthere)
  have hbeside : place ≠ fs.entry path (name ++ ".tmp") := by
    intro heq
    rw [heq, node?_temporary hwritten] at hthere
    exact absurd hthere nofun
  rw [movedInto, node?_put_of_ne _ hne, node?_erase_of_ne _ hbeside, hthere]

end Written

section Steps

theorem inOrder_ok {operation : Operation} {rest : List Operation}
    (h : operation fs = (after, .ok ())) :
    Operation.inOrder (operation :: rest) fs = Operation.inOrder rest after := by
  rw [Operation.inOrder, h]

theorem inOrder_error {operation : Operation} {rest : List Operation} {e : IoError}
    (h : operation fs = (after, .error e)) :
    Operation.inOrder (operation :: rest) fs = (after, .error e) := by
  rw [Operation.inOrder, h]

theorem inOrder_unlessRefused (refused : Option IoError) (operation : Operation)
    (rest : List Operation) :
    Operation.inOrder (.unlessRefused refused operation :: rest) fs =
      match refused with
      | none => Operation.inOrder (operation :: rest) fs
      | some e => (fs, .error e) := by
  cases refused <;> rfl

/-- One of the ways in which saving a file can end, before the errors are told apart. -/
def Replaces (fs : FileSystem) (path content : String) (refused : Refusals)
    (result : FileSystem × Except IoError Unit) : Prop :=
  fs.Saving path content refused result.1 (result.2.mapError .io)

variable {ready written : FileSystem} (hready : fs.Prepared ready path name)

include hready

theorem Prepared.replaces_synced
    (hwritten : written = ready.put (fs.entry path (name ++ ".tmp")) (.file content))
    (hleads : written.LeadsTo path (fs.goal (Path.parent path)) name false)
    (hfree : written.node? (fs.entry path name) ≠ some .directory) :
    fs.Replaces path content refused (Operation.inOrder [syncParent path refused.syncingParent]
      (fs.movedInto written path name content)) := by
  have hdone : fs.Replaces path content refused (fs.movedInto written path name content, .ok ()) :=
    .replaced hready hwritten hleads hfree (.inl rfl)
  by_cases hempty : (Path.parent path).isEmpty = true
  · have hskipped : syncParent path refused.syncingParent (fs.movedInto written path name content) =
        (fs.movedInto written path name content, .ok ()) := by
      simp only [syncParent, if_pos hempty]
    rw [inOrder_ok hskipped]
    exact hdone
  cases hsync : refused.syncingParent with
  | some e =>
    have hfailed : syncParent path (some e) (fs.movedInto written path name content) =
        (fs.movedInto written path name content, .error e) := by
      simp only [syncParent, if_neg hempty]
    rw [inOrder_error hfailed]
    exact .replaced hready hwritten hleads hfree (.inr ⟨e, hsync, rfl⟩)
  | none =>
    have hne : Path.parent path ≠ "" := by simpa using hempty
    -- The move takes no directory away, so the one that holds the file is still found.
    have hkeeps : ready.KeepsDirectories (fs.movedInto written path name content) :=
      (hready.sameDirectories hwritten).keeps.trans (movedInto_keeps hwritten hfree)
    have hfind := (hkeeps.resolves hready.resolves).find?_eq hne hready.noNul
    have hsynced : syncParent path none (fs.movedInto written path name content) =
        (fs.movedInto written path name content, .ok ()) := by
      simp only [syncParent, if_neg hempty, hfind]
      rfl
    rw [inOrder_ok hsynced]
    exact hdone

theorem Prepared.replaces_moved
    (hwritten : written = ready.put (fs.entry path (name ++ ".tmp")) (.file content)) :
    fs.Replaces path content refused (Operation.inOrder
      (.unlessRefused refused.moving (move (beside path name) path) ::
        [syncParent path refused.syncingParent]) written) := by
  rw [inOrder_unlessRefused]
  cases hmoving : refused.moving with
  | some e => exact .left hready hwritten (.whole (.inr (.inl hmoving)))
  | none =>
  rcases renameFile_cases written (beside path name) path with
    ⟨e, hmove⟩ | ⟨place, parent, last, node, hplace, hleads, hnode, hfree, hmove⟩
  · have hmoved : move (beside path name) path written = _ := hmove
    simp only [inOrder_error hmoved]
    exact .left hready hwritten (.whole (.inr (.inr hmove)))
  -- What is moved is the file that was written, and it goes to the name in its directory.
  · obtain ⟨hparent, hlast⟩ := hready.parent_eq hwritten hleads
    rw [hready.place_eq hwritten hplace] at hmove hnode
    rw [node?_temporary hwritten] at hnode
    rw [hparent, hlast] at hmove hleads hfree
    have hmoved : move (beside path name) path written =
        (fs.movedInto written path name content, .ok ()) := by
      rw [move, hmove, ← Option.some.inj hnode]
      rfl
    simp only [inOrder_ok hmoved]
    exact hready.replaces_synced hwritten hleads hfree

theorem Prepared.replaces_whole
    (hwritten : written = ready.put (fs.entry path (name ++ ".tmp")) (.file content)) :
    fs.Replaces path content refused (Operation.inOrder (.unlessRefused refused.syncing syncFile ::
      .unlessRefused refused.moving (move (beside path name) path) ::
        [syncParent path refused.syncingParent]) written) := by
  rw [inOrder_unlessRefused]
  cases hsyncing : refused.syncing with
  | some e => exact .left hready hwritten (.whole (.inl hsyncing))
  | none => exact hready.replaces_moved hwritten

/-- An open file is written to as a whole, whatever is in it. -/
theorem Prepared.write_eq
    (hopened : written = ready.put (fs.entry path (name ++ ".tmp")) (.file content))
    (text : String) : written.write (beside path name) text =
      (ready.put (fs.entry path (name ++ ".tmp")) (.file text), .ok ()) := by
  have hsame := hready.sameDirectories hopened
  have hgoal : written.goal (Path.parent path) = fs.goal (Path.parent path) :=
    (goal_congr hsame.home _).trans hready.goal_eq
  rcases (hready.resolves.same hsame).write_join (Path.isName_temporary hready.name_eq) text with
    ⟨-, hwrite⟩ | ⟨hrefuses, -⟩
  · rw [beside, Path.withName, hwrite, hgoal, hopened, ← entry, put_put]
  · exact absurd (hready.accepts.same hsame) hrefuses

theorem Prepared.replaces_filled
    (hopened : written = ready.put (fs.entry path (name ++ ".tmp")) (.file "")) :
    fs.Replaces path content refused (Operation.inOrder
      (fill (beside path name) content refused.writing ::
        .unlessRefused refused.syncing syncFile ::
        .unlessRefused refused.moving (move (beside path name) path) ::
        [syncParent path refused.syncingParent]) written) := by
  cases hwriting : refused.writing with
  | none =>
    have hfill : fill (beside path name) content none written = _ :=
      hready.write_eq hopened content
    rw [inOrder_ok hfill]
    exact hready.replaces_whole rfl
  | some refusal =>
    obtain ⟨room, e⟩ := refusal
    by_cases hroom : content.utf8ByteSize ≤ room
    · have hfill : fill (beside path name) content (some (room, e)) written = _ :=
        (if_pos hroom).trans (hready.write_eq hopened content)
      rw [inOrder_ok hfill]
      exact hready.replaces_whole rfl
    · have hfill : fill (beside path name) content (some (room, e)) written =
          (ready.put (fs.entry path (name ++ ".tmp"))
            (.file (String.ofList (fitting room content.toList))), .error e) := by
        refine (if_neg hroom).trans ?_
        rw [hready.write_eq hopened]
      rw [inOrder_error hfill]
      exact .left hready rfl (.torn hwriting (Nat.not_le.1 hroom))

omit hready in
theorem replaces_opened (hadds : fs.Adds ready (fs.named (Path.parent path)))
    (hresolves : ready.Resolves (Path.parent path))
    (hnul : (Path.parent path).toList.contains '\x00' = false)
    (hname : Path.name? path = some name) :
    fs.Replaces path content refused (Operation.inOrder
      (replacement (beside path name) path content refused) ready) := by
  rw [replacement, inOrder_unlessRefused]
  cases refused.opening with
  | some e => exact .stopped List.prefix_rfl hadds _
  | none =>
  rcases hresolves.write_join (Path.isName_temporary hname) "" with
    ⟨haccepts, hopen⟩ | ⟨-, e, hopen⟩
  · have hready : fs.Prepared ready path name := ⟨hadds, hresolves, hnul, hname, haccepts⟩
    have hopened : openEmpty (beside path name) ready =
        (ready.put (fs.entry path (name ++ ".tmp")) (.file ""), .ok ()) := by
      rw [openEmpty, beside, Path.withName, hopen, hready.goal_eq, ← entry]
    simp only [inOrder_ok hopened]
    exact hready.replaces_filled rfl
  · have hopened : openEmpty (beside path name) ready = _ := hopen
    simp only [inOrder_error hopened]
    exact .stopped List.prefix_rfl hadds _

end Steps

theorem saving_save (fs : FileSystem) (path content : String) (refused : Refusals) :
    fs.Saving path content refused (fs.save path content refused).1
      (fs.save path content refused).2 := by
  obtain ⟨made, hmade⟩ := fs.exists_parentMade path refused.directories
  unfold save
  cases hparent : makeParent path refused.directories fs with
  | mk ready result =>
  rw [hparent] at hmade
  cases result with
  | error e =>
    simp only
    exact .stopped hmade.front hmade.adds _
  | ok done =>
  obtain ⟨hall, hresolves, hnul⟩ := hmade.complete rfl
  have hadds : fs.Adds ready (fs.named (Path.parent path)) := hall ▸ hmade.adds
  cases hname : Path.name? path with
  | none =>
    have hnone : temporaryPath? path = none := by rw [temporaryPath?, hname, Option.map_none]
    simp only [hnone]
    exact .stopped List.prefix_rfl hadds _
  | some name =>
    simp only [temporaryPath?_eq hname]
    exact replaces_opened hadds hresolves hnul hname

end Saving

end FileSystem
end ZodCatalog
