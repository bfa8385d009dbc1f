import ZodCatalog.Proofs.FileTrees

/-! What the writer for a directory leaves after a preparation and writes that all succeed: the
files under their names, the directories of its path, and of what was there all but the modules
that cleaning removes. The same calls succeed again, and then change nothing. -/

namespace ZodCatalog

namespace GeneratorCall

/-- A call that writes a file under a name for it in a directory. -/
def WritesName (c : GeneratorCall) : Prop := ∃ e, c.written? = some e ∧ Path.IsName e.1

end GeneratorCall

namespace FileSystem

/-- What is at a place of the tree without the modules that cleaning removes. -/
def kept (fs : FileSystem) (directory : Location) (clean : Bool) (place : Location) : Option Node :=
  (fs.node? place).filter fun node => !(clean && hasEndingIn directory "ts" (place, node))

/-- What is at a place once the directory of a path is prepared: all that the path names are
directories. -/
def prepared (fs : FileSystem) (path : String) (clean : Bool) (place : Location) : Option Node :=
  if place ∈ fs.named path then some .directory else fs.kept (fs.goal path) clean place

/-- What is at a place once files are written into a prepared directory. -/
def shown (fs : FileSystem) (path : String) (clean : Bool) (files : List (String × String))
    (place : Location) : Option Node :=
  (fileAt (fs.goal path) files place).map Node.file <|> fs.prepared path clean place

/-- A directory that can be prepared again. -/
structure Ready (fs : FileSystem) (path : String) (clean : Bool) : Prop where
  resolves : fs.Resolves path
  noNul : path.toList.contains '\x00' = false
  cleanable : clean = true → path ≠ "" ∧ fs.node? (fs.goal path) = some .directory

variable {fs fs' : FileSystem} {path : String} {clean : Bool}

/-- Without steps up in its path, only files are new below a directory. -/
theorem shown_below {files : List (String × String)} (hup : ".." ∉ Path.parts path)
    {rest : Location} (hrest : rest ≠ []) :
    fs.shown path clean files (fs.goal path ++ rest) =
      ((fileAt (fs.goal path) files (fs.goal path ++ rest)).map Node.file <|>
        fs.kept (fs.goal path) clean (fs.goal path ++ rest)) := by
  have hbelow : fs.goal path ++ rest ∉ fs.named path := by
    intro hmem
    have hlength := (prefix_goal_of_mem_named hup hmem).length_le
    rw [List.length_append] at hlength
    exact hrest (List.length_eq_zero_iff.1 (by omega))
  rw [shown, prepared, if_neg hbelow]

theorem Ready.same (h : fs.Ready path clean) (hsame : fs.SameDirectories fs') :
    fs'.Ready path clean where
  resolves := h.resolves.same hsame
  noNul := h.noNul
  cleanable hclean := by
    rw [FileSystem.goal_congr hsame.home, hsame.directories]
    exact h.cleanable hclean

/-- Files shown in a tree that shows them are nothing new. -/
theorem shown_of_shown {files : List (String × String)} (hgoal : fs'.goal path = fs.goal path)
    (hnamed : fs'.named path = fs.named path)
    (h : ∀ place, fs'.node? place = fs.shown path clean files place) (place : Location) :
    fs'.shown path clean files place = fs'.node? place := by
  rw [shown, prepared, kept, h, shown, prepared, kept, hgoal, hnamed]
  cases fileAt (fs.goal path) files place with
  | some content => rfl
  | none =>
    by_cases hplace : place ∈ fs.named path
    · simp [hplace]
    · simp [hplace, Option.filter_filter]

end FileSystem

namespace DirectoryStore

variable {directory : String} {clean : Bool} {s : DirectoryStore}

theorem effect_of_written {c : GeneratorCall} {e : String × String} (h : c.written? = some e)
    (s : DirectoryStore) :
    (writer directory clean).effect c s = writeFile directory e.1 e.2 s := by
  cases c with
  | writeTable | writeIndex =>
    cases h
    rfl
  | progress | catalog | model | rendered | prepare => contradiction

/-- What a preparation that succeeds leaves. -/
theorem prepare_ready (hnodup : (s.system.nodes.map Prod.fst).Nodup)
    (h : (prepare directory clean s).2 = .ok ()) :
    (prepare directory clean s).1.system.Ready directory clean ∧
      ((prepare directory clean s).1.system.nodes.map Prod.fst).Nodup ∧
      (prepare directory clean s).1.system.home = s.system.home ∧
      ∀ place, (prepare directory clean s).1.system.node? place =
        s.system.prepared directory clean place := by
  have hmakes (hok : (s.system.makeDirectories directory).2 = .ok ()) :=
    FileSystem.makeDirectories_makes hok
  rw [prepare] at h ⊢
  rcases hmade : s.system.makeDirectories directory with ⟨made, e | u⟩
  · rw [hmade] at h
    contradiction
  rw [hmade] at h hmakes
  obtain ⟨hmakes, hresolves, hnul⟩ := hmakes rfl
  have hnodup := hmakes.nodup hnodup
  -- Making directories keeps every node that is there; only cleaning takes files away.
  cases clean with
  | false =>
    refine ⟨⟨hresolves, hnul, nofun⟩, hnodup, hmakes.home, fun place => ?_⟩
    show made.node? place = _
    rw [hmakes.node?, FileSystem.prepared, FileSystem.kept]
    cases s.system.node? place <;> rfl
  | true =>
    rcases hremoved : made.removeEnding directory "ts" with ⟨removed, e | u⟩
    · have hfailed : (s.settle (made.removeEnding directory "ts")).2 = .error (.io e) := by
        rw [hremoved]
        rfl
      exact absurd (hfailed.symm.trans h) nofun
    · obtain ⟨hcleanable, rfl⟩ := (hresolves.removeEnding_eq_ok_iff hnul).1 hremoved
      have hsame := FileSystem.sameDirectories_without hnodup (made.goal directory) "ts"
      have hready : made.Ready directory true := ⟨hresolves, hnul, fun _ => hcleanable⟩
      have hsystem : (s.settle (made.removeEnding directory "ts")).1.system =
          made.without (made.goal directory) "ts" := by
        rw [hremoved]
        rfl
      simp only [if_true, hsystem]
      refine ⟨hready.same hsame, FileSystem.nodup_without hnodup _ _, hmakes.home, fun place => ?_⟩
      rw [FileSystem.node?_without hnodup, hmakes.node?, FileSystem.prepared, FileSystem.kept,
        FileSystem.goal_congr hmakes.home]
      split <;> rfl

/-- A directory that is ready is prepared by removing modules only. -/
theorem prepare_of_ready (h : s.system.Ready directory clean)
    (hnodup : (s.system.nodes.map Prod.fst).Nodup) :
    (prepare directory clean s).2 = .ok () ∧
      s.system.SameDirectories (prepare directory clean s).1.system := by
  rw [prepare, h.resolves.makeDirectories h.noNul]
  cases clean with
  | false => exact ⟨rfl, .refl _⟩
  | true =>
    have hremoved : s.system.removeEnding directory "ts" =
        (s.system.without (s.system.goal directory) "ts", .ok ()) :=
      (h.resolves.removeEnding_eq_ok_iff h.noNul).2 ⟨h.cleanable rfl, rfl⟩
    show (s.settle (s.system.removeEnding directory "ts")).2 = .ok () ∧
      s.system.SameDirectories (s.settle (s.system.removeEnding directory "ts")).1.system
    rw [hremoved]
    exact ⟨rfl, FileSystem.sameDirectories_without hnodup _ _⟩

theorem writeFile_of_accepts {name : String} (h : s.system.Resolves directory)
    (hname : Path.IsName name) (content : String) :
    (s.system.Accepts directory name ∧ ∃ written, writeFile directory name content s =
        (⟨s.system.put (s.system.goal directory ++ [name]) (.file content), written⟩, .ok ())) ∨
      ¬ s.system.Accepts directory name ∧
        ∃ e, (writeFile directory name content s).2 = .error e := by
  rcases h.write_join hname content with ⟨haccepts, hwrite⟩ | ⟨hrefuses, e, hwrite⟩
  · refine .inl ⟨haccepts, s.written ++ [Path.join directory name], ?_⟩
    delta writeFile
    dsimp only
    rw [hwrite]
  · refine .inr ⟨hrefuses, .io e, ?_⟩
    delta writeFile
    dsimp only
    rw [hwrite]
    rfl

/-- Writes succeed exactly if each name is accepted before the first of them. -/
theorem replay_writes {cs : List GeneratorCall} (hcs : ∀ c ∈ cs, c.WritesName)
    (h : s.system.Resolves directory) :
    ((Process.replay (writer directory clean).effect cs s).2 = .ok () ↔
        ∀ e ∈ cs.filterMap (·.written?), s.system.Accepts directory e.1) ∧
      ((Process.replay (writer directory clean).effect cs s).2 = .ok () →
        s.system.SameDirectories (Process.replay (writer directory clean).effect cs s).1.system ∧
        (Process.replay (writer directory clean).effect cs s).1.system =
          s.system.putFiles (s.system.goal directory) (cs.filterMap (·.written?))) := by
  induction cs generalizing s with
  | nil => exact ⟨by simp [Process.replay], fun _ => ⟨⟨rfl, fun _ => Iff.rfl⟩, rfl⟩⟩
  | cons c cs ih =>
    obtain ⟨⟨e, he, hname⟩, hcs⟩ := List.forall_mem_cons.1 hcs
    rw [Process.replay, effect_of_written he, List.filterMap_cons, he]
    simp only [List.forall_mem_cons]
    rcases writeFile_of_accepts h hname e.2 with
      ⟨haccepts, written, hwrite⟩ | ⟨hrefuses, error, herror⟩
    · rw [hwrite]
      have hsame : s.system.SameDirectories
          (s.system.put (s.system.goal directory ++ [e.1]) (.file e.2)) :=
        FileSystem.sameDirectories_put_file (by simp) haccepts.free e.2
      -- A module that was written leaves the directories alone, so what else can be written there
      -- is what could be before.
      have hrest := ih (s := ⟨_, written⟩) hcs (h.same hsame)
      have haccepted (name : String) :
          (s.system.put (s.system.goal directory ++ [e.1]) (.file e.2)).Accepts directory name ↔
            s.system.Accepts directory name :=
        ⟨fun hname => hname.same hsame.symm, fun hname => hname.same hsame⟩
      refine ⟨?_, fun hok => ?_⟩
      · rw [and_iff_right haccepts]
        exact hrest.1.trans (forall₂_congr fun e' _ => haccepted e'.1)
      · exact ⟨hsame.trans (hrest.2 hok).1, (hrest.2 hok).2⟩
    · rw [herror]
      refine ⟨⟨fun hok => ?_, fun hall => absurd hall.1 hrefuses⟩, fun hok => ?_⟩
      · cases hok
      · cases hok

theorem replay_prepare {cs : List GeneratorCall}
    (h : (Process.replay (writer directory clean).effect (.prepare :: cs) s).2 = .ok ()) :
    (prepare directory clean s).2 = .ok () ∧
      Process.replay (writer directory clean).effect (.prepare :: cs) s =
        Process.replay (writer directory clean).effect cs (prepare directory clean s).1 := by
  have hcall : (writer directory clean).effect .prepare s = prepare directory clean s := rfl
  rw [Process.replay, hcall] at h ⊢
  cases hprepared : (prepare directory clean s).2 with
  | ok u => exact ⟨rfl, rfl⟩
  | error e =>
    rw [hprepared] at h
    contradiction

section Again

variable {cs : List GeneratorCall} (hcs : ∀ c ∈ cs, c.WritesName)
  (hnodup : (s.system.nodes.map Prod.fst).Nodup)
  (h : (Process.replay (writer directory clean).effect (.prepare :: cs) s).2 = .ok ())

include hcs hnodup h

/-- A preparation and writes that all succeed show the files in the tree. -/
theorem replay_shows :
    (Process.replay (writer directory clean).effect (.prepare :: cs) s).1.system.home =
        s.system.home ∧
      ((Process.replay (writer directory clean).effect (.prepare :: cs) s).1.system.nodes.map
        Prod.fst).Nodup ∧
      ∀ place, (Process.replay (writer directory clean).effect (.prepare :: cs) s).1.system.node?
          place =
        s.system.shown directory clean (Entries.putAll (cs.filterMap (·.written?)) []) place := by
  obtain ⟨hprepared, hreplay⟩ := replay_prepare h
  obtain ⟨hready, hnodup, hhome, htree⟩ := prepare_ready hnodup hprepared
  rw [hreplay] at h ⊢
  obtain ⟨hsame, hsystem⟩ := (replay_writes hcs hready.resolves).2 h
  refine ⟨hsame.home.trans hhome, ?_, fun place => ?_⟩
  · rw [hsystem]
    exact FileSystem.nodup_putFiles hnodup _
  · rw [hsystem, FileSystem.goal_congr hhome, FileSystem.shown]
    refine FileSystem.node?_putFiles _ ?_
    rw [FileSystem.fileAt_nil, htree]
    rfl

/-- The calls succeed again on what they left: no directory has changed, and only these matter. -/
theorem replay_again : (Process.replay (writer directory clean).effect (.prepare :: cs)
    (Process.replay (writer directory clean).effect (.prepare :: cs) s).1).2 = .ok () := by
  have hnodup' := (replay_shows hcs hnodup h).2.1
  obtain ⟨hprepared, hreplay⟩ := replay_prepare h
  obtain ⟨hready, -⟩ := prepare_ready hnodup hprepared
  rw [hreplay] at h hnodup' ⊢
  obtain ⟨haccepts, hsame⟩ := replay_writes hcs hready.resolves
  have hready' := hready.same (hsame h).1
  obtain ⟨hprepared', hsame'⟩ := prepare_of_ready hready' hnodup'
  have hcall (s : DirectoryStore) :
      (writer directory clean).effect .prepare s = prepare directory clean s := rfl
  rw [Process.replay, hcall, hprepared']
  refine (replay_writes hcs (hready'.resolves.same hsame')).1.2 fun e he => ?_
  exact (haccepts.1 h e he).same ((hsame h).1.trans hsame')

/-- And then they leave each place as it is. -/
theorem replay_again_tree (place : Location) :
    (Process.replay (writer directory clean).effect (.prepare :: cs)
        (Process.replay (writer directory clean).effect (.prepare :: cs) s).1).1.system.node?
          place =
      (Process.replay (writer directory clean).effect (.prepare :: cs) s).1.system.node? place := by
  obtain ⟨hhome, hnodup', htree⟩ := replay_shows hcs hnodup h
  rw [(replay_shows hcs hnodup' (replay_again hcs hnodup h)).2.2]
  exact FileSystem.shown_of_shown (FileSystem.goal_congr hhome directory)
    (FileSystem.named_congr hhome directory) htree place

end Again
end DirectoryStore
end ZodCatalog
