import ZodCatalog.Proofs.SaveSteps

/-! What saving a file leaves in the tree. The content is written beside the file and moved into its
place, so a file that was there is replaced as a whole or not at all; what was made before a step
fails is not taken back. -/

namespace ZodCatalog

namespace FileSystem

section Saving

variable {fs after : FileSystem} {path name content : String} {refused : Refusals}

/-- A place is as it was, or a directory on the way to a path that was missing. -/
def KeptAt (fs after : FileSystem) (path : String) (place : Location) : Prop :=
  after.node? place = fs.node? place ∨
    place ∈ fs.named (Path.parent path) ∧ fs.node? place = none ∧
      after.node? place = some .directory

theorem KeptAt.file {place : Location} (h : fs.KeptAt after path place)
    (hfile : fs.node? place = some (.file content)) :
    after.node? place = some (.file content) := by
  rcases h with hsame | ⟨-, hmissing, -⟩
  · rw [hsame, hfile]
  · exact absurd (hfile.symm.trans hmissing) nofun

theorem Adds.keptAt {made : List Location} (h : fs.Adds after made)
    (hmade : made <+: fs.named (Path.parent path)) (place : Location) :
    fs.KeptAt after path place := by
  by_cases hmem : place ∈ made
  · have hthere : after.node? place = some .directory := by rw [h.node?, if_pos hmem]
    cases hbefore : fs.node? place with
    | none => exact .inr ⟨hmade.subset hmem, hbefore, hthere⟩
    | some node =>
      cases node with
      | directory => exact .inl (hthere.trans hbefore.symm)
      | file text => exact absurd hbefore (h.free place hmem text)
  · exact .inl (by rw [h.node?, if_neg hmem])

theorem append_temporary_ne (name : String) : name ++ ".tmp" ≠ name := by
  intro heq
  have hlength := congrArg String.length heq
  rw [String.length_append] at hlength
  exact absurd hlength (Nat.ne_of_gt (Nat.lt_add_of_pos_right (by decide)))

/-- The place of a path with an ending put to its name, in the directory that holds the path. -/
def sibling? (fs : FileSystem) (path ending : String) : Option Location :=
  (Path.name? path).map fun name => fs.entry path (name ++ ending)

/-- What replacing a file as a whole leaves: the path reads as the content, the file beside it is
gone, and nothing else is new but directories on the way that were missing. -/
structure Replaced (fs after : FileSystem) (path content : String) : Prop where
  read : after.read path = .ok content
  target : ∀ place, fs.sibling? path "" = some place → after.node? place = some (.file content)
  gone : ∀ place, fs.sibling? path ".tmp" = some place → after.node? place = none
  kept : ∀ place, fs.sibling? path "" = some place ∨ fs.sibling? path ".tmp" = some place ∨
    fs.KeptAt after path place

theorem Prepared.sibling?_eq {ready : FileSystem} (hready : fs.Prepared ready path name)
    (ending : String) : fs.sibling? path ending = some (fs.entry path (name ++ ending)) := by
  rw [sibling?, hready.name_eq, Option.map_some]

section Written

variable {ready written : FileSystem} (hready : fs.Prepared ready path name)
  (hwritten : written = ready.put (fs.entry path (name ++ ".tmp")) (.file content))

include hready hwritten

theorem Prepared.keptAt {place : Location} (hne : place ≠ fs.entry path (name ++ ".tmp")) :
    fs.KeptAt written path place := by
  have hsame : written.node? place = ready.node? place := by
    rw [hwritten, node?_put_of_ne ready hne]
  have hkept := hready.adds.keptAt List.prefix_rfl place
  rwa [KeptAt, ← hsame] at hkept

theorem Prepared.keepsDirectories : fs.KeepsDirectories written :=
  hready.adds.keepsDirectories.trans (hready.sameDirectories hwritten).keeps

/-- What is read at the path is not touched by the file beside it. -/
theorem Prepared.read_eq {old : String} (h : fs.read path = .ok old) :
    written.read path = .ok old := by
  refine (hready.keepsDirectories hwritten).read_eq h fun parent last hlast => ?_
  -- The file that is read has the name of the path, and the one beside it another.
  have hname : last = name := Option.some.inj (hlast.symm.trans hready.name_eq)
  refine KeptAt.file (hready.keptAt hwritten fun heq => ?_)
  have hend := congrArg List.getLast? heq
  rw [entry, List.getLast?_concat, List.getLast?_concat, hname] at hend
  exact append_temporary_ne name (Option.some.inj hend).symm

theorem Prepared.replaced
    (hleads : written.LeadsTo path (fs.goal (Path.parent path)) name false)
    (hfree : written.node? (fs.entry path name) ≠ some .directory) :
    fs.Replaced (fs.movedInto written path name content) path content := by
  have htarget : (fs.movedInto written path name content).node? (fs.entry path name) =
      some (.file content) := node?_put_self _ (fs.entry_ne_nil _ _) _
  have hself := hready.sibling?_eq ""
  have hbeside := hready.sibling?_eq ".tmp"
  rw [String.append_empty] at hself
  refine ⟨?_, fun place hplace => ?_, fun place hplace => ?_, fun place => ?_⟩
  · rw [((movedInto_keeps hwritten hfree).leadsTo hleads).read_eq, ← entry, htarget]
    rfl
  · rw [← Option.some.inj (hself.symm.trans hplace), htarget]
  · have hne : fs.entry path (name ++ ".tmp") ≠ fs.entry path name :=
      mt entry_inj.1 (append_temporary_ne name)
    rw [← Option.some.inj (hbeside.symm.trans hplace), movedInto, node?_put_of_ne _ hne,
      node?_erase_self _ (fs.entry_ne_nil _ _)]
  · rw [hself, hbeside]
    by_cases hplace : place = fs.entry path name
    · exact .inl (congrArg some hplace.symm)
    by_cases hplace' : place = fs.entry path (name ++ ".tmp")
    · exact .inr (.inl (congrArg some hplace'.symm))
    have hkept := hready.keptAt hwritten hplace'
    have hother : (fs.movedInto written path name content).node? place = written.node? place := by
      rw [movedInto, node?_put_of_ne _ hplace, node?_erase_of_ne _ hplace']
    refine .inr (.inr ?_)
    rwa [KeptAt, ← hother] at hkept

end Written

theorem Saving.succeeded (h : fs.Saving path content refused after (.ok ())) :
    fs.Replaced after path content := by
  cases h with
  | replaced hready hwritten hleads hfree _ => exact hready.replaced hwritten hleads hfree

/-- What a save that failed may leave in the file beside a path: a part of the content, if not all
of it could be written, or all of it, if it could not be synced or not be moved. -/
def LeftAt (fs after : FileSystem) (path content : String) (refused : Refusals) (cause : IoError)
    (place : Location) : Prop :=
  fs.sibling? path ".tmp" = some place ∧ ∃ part, after.node? place = some (.file part) ∧
    ((∃ room, refused.writing = some (room, cause) ∧ part.toList <+: content.toList ∧
      part ≠ content) ∨
    part = content ∧ (refused.syncing = some cause ∨ refused.moving = some cause ∨
      ∃ temporary, temporaryPath? path = some temporary ∧
        after.renameFile temporary path = (after, .error cause)))

theorem Prepared.leftAt {ready : FileSystem} {cause : IoError} {part : String}
    (hready : fs.Prepared ready path name)
    (hafter : after = ready.put (fs.entry path (name ++ ".tmp")) (.file part))
    (hwhy : Leaves refused after (beside path name) path content cause part) :
    fs.LeftAt after path content refused cause (fs.entry path (name ++ ".tmp")) := by
  refine ⟨hready.sibling?_eq ".tmp", part, node?_temporary hafter, ?_⟩
  cases hwhy with
  | @torn room hroom hlong =>
    refine .inl ⟨room, hroom, ?_, fun hall => fitting_ne hlong ?_⟩
    · rw [String.toList_ofList]
      exact fitting_prefix room content.toList
    · rw [← String.toList_ofList (l := fitting room content.toList), hall]
  | whole hwhy =>
    refine .inr ⟨rfl, ?_⟩
    rcases hwhy with hsyncing | hmoving | hmove
    · exact .inl hsyncing
    · exact .inr (.inl hmoving)
    · exact .inr (.inr ⟨_, temporaryPath?_eq hready.name_eq, hmove⟩)

theorem Saving.failed {e : SaveError} (h : fs.Saving path content refused after (.error e)) :
    (∃ cause, refused.syncingParent = some cause ∧ e = .io cause ∧ fs.Replaced after path content) ∨
    (∀ old, fs.read path = .ok old → after.read path = .ok old) ∧
      ∀ place, fs.KeptAt after path place ∨
        ∃ cause, e = .io cause ∧ fs.LeftAt after path content refused cause place := by
  cases h with
  | stopped hmade hadds =>
    refine .inr ⟨fun old hread => ?_, fun place => .inl (hadds.keptAt hmade place)⟩
    exact hadds.keepsDirectories.read_eq hread fun parent last _ => (hadds.keptAt hmade _).file
  | @left ready _ name part cause hready hafter hwhy =>
    refine .inr ⟨fun old hread => hready.read_eq hafter hread, fun place => ?_⟩
    by_cases hplace : place = fs.entry path (name ++ ".tmp")
    · rw [hplace]
      exact .inr ⟨cause, rfl, hready.leftAt hafter hwhy⟩
    · exact .inl (hready.keptAt hafter hplace)
  | replaced hready hwritten hleads hfree hresult =>
    rcases hresult with hok | ⟨cause, hsync, he⟩
    · exact absurd hok nofun
    · exact .inl ⟨cause, hsync, Except.error.inj he, hready.replaced hwritten hleads hfree⟩

/-- Saving a document replaces a file as a whole or not at all, whatever the system refuses on the
way. Only if the directory of the file could not be synced does the save fail with the file
replaced. Otherwise, on failure, a file that was there still reads as before, and all that is left
is directories on the way that were missing and what could be written of the text beside the path.
-/
theorem saveJson_all_or_nothing (fs : FileSystem) (path : String) (v : Document.Value)
    (refused : Refusals) :
    let text := v.pretty 0 ++ "\n"
    let after := (fs.saveJson path v refused).1
    ((fs.saveJson path v refused).2 = .ok () → fs.Replaced after path text) ∧
    ∀ e, (fs.saveJson path v refused).2 = .error e →
      (∃ cause, refused.syncingParent = some cause ∧ e = .io cause ∧ fs.Replaced after path text) ∨
      (∀ old, fs.read path = .ok old → after.read path = .ok old) ∧
        ∀ place, fs.KeptAt after path place ∨
          ∃ cause, e = .io cause ∧ fs.LeftAt after path text refused cause place := by
  intro text after
  have hsaving : fs.Saving path text refused after (fs.saveJson path v refused).2 :=
    fs.saving_save path text refused
  refine ⟨fun hok => ?_, fun e he => ?_⟩
  · rw [hok] at hsaving
    exact hsaving.succeeded
  · rw [he] at hsaving
    exact hsaving.failed

/-- A report that takes a file left beside it away, one that is cut off beside an older report, and
one that is in place although its directory could not be synced. -/
theorem saveJson_all_or_nothing_reports :
    let fs : FileSystem := { nodes := [
      (["logs"], .directory), (["logs", "run.json.tmp"], .file "left"), (["last"], .file "old")] }
    let report : Document.Value := .record [("tables", .int 2)]
    let saved := fs.saveJson "logs/run.json" report
    let full : Refusals := { writing := some (5, .refused "room") }
    let torn := fs.saveJson "last" report full
    let loose : Refusals := { syncingParent := some (.refused "sync") }
    let unsynced := fs.saveJson "logs/run.json" report loose
    saved.2 = .ok () ∧ saved.1.read "logs/run.json" = .ok "\x7b\n  \"tables\": 2\n\x7d\n" ∧
      saved.1.node? ["logs", "run.json.tmp"] = none ∧
      torn.2 = .error (.io (.refused "room")) ∧ torn.1.read "last" = .ok "old" ∧
      torn.1.node? ["last.tmp"] = some (.file "\x7b\n  \"") ∧
      unsynced.2 = .error (.io (.refused "sync")) ∧
      fs.Replaced unsynced.1 "logs/run.json" "\x7b\n  \"tables\": 2\n\x7d\n" := by
  intro fs report saved full torn loose unsynced
  have hsaved : saved.2 = .ok () := by rfl
  have htorn : torn.2 = .error (.io (.refused "room")) := by rfl
  have hunsynced : unsynced.2 = .error (.io (.refused "sync")) := by rfl
  have hold : fs.read "last" = .ok "old" := by rfl
  have hreplaced := (saveJson_all_or_nothing fs "logs/run.json" report {}).1 hsaved
  have hkept : torn.1.read "last" = .ok "old" := by
    rcases (saveJson_all_or_nothing fs "last" report full).2 _ htorn with ⟨_, hsync, -⟩ | hfailed
    · exact absurd hsync nofun
    · exact hfailed.1 "old" hold
  have hplaced : fs.Replaced unsynced.1 "logs/run.json" "\x7b\n  \"tables\": 2\n\x7d\n" := by
    rcases (saveJson_all_or_nothing fs "logs/run.json" report loose).2 _ hunsynced with
      ⟨-, -, -, hreplaced⟩ | hfailed
    · exact hreplaced
    · have hgone : unsynced.1.node? ["logs", "run.json.tmp"] = none := by rfl
      rcases hfailed.2 ["logs", "run.json.tmp"] with (hsame | ⟨-, hmissing, -⟩) |
        ⟨_, -, -, part, hfile, -⟩
      · exact absurd (hgone.symm.trans hsame) (by decide)
      · exact absurd hmissing (by decide)
      · exact absurd (hgone.symm.trans hfile) nofun
  exact ⟨hsaved, hreplaced.read, hreplaced.gone _ (by rfl), htorn, hkept,
    by decide +kernel, hunsynced, hplaced⟩

/-- A report that cannot be moved stays beside the directory in its place, and a path without a name
makes the directory in front of it. -/
theorem saveJson_leaves_temporary :
    let fs : FileSystem := { nodes := [(["last"], .directory)] }
    let report : Document.Value := .record [("tables", .int 2)]
    let unmoved := fs.saveJson "last" report
    let unnamed := fs.saveJson "logs/.." report
    unmoved.2 = .error (.io .isADirectory) ∧ fs.node? ["last.tmp"] = none ∧
      unmoved.1.node? ["last.tmp"] = some (.file "\x7b\n  \"tables\": 2\n\x7d\n") ∧
      unnamed.2 = .error (.noFileName "logs/..") ∧ fs.node? ["logs"] = none ∧
      unnamed.1.node? ["logs"] = some .directory := by
  intro fs report unmoved unnamed
  exact ⟨rfl, rfl, rfl, rfl, rfl, rfl⟩

end Saving

end FileSystem
end ZodCatalog
