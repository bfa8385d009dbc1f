import ZodCatalog.Proofs.DirectoryWrites
import ZodCatalog.Proofs.PropertyNames

/-! Where the names of tables can lead. The file name of a module is made of words of letters and
digits with single hyphens between them, so that it stands for an entry of the directory that it is
put under, and can be written between quotes as it is. -/

namespace ZodCatalog

namespace Text

/-- Whether a span has all code points from `low` to `high`. -/
def Span.covers (a : Span) (low high : Nat) : Bool :=
  a.first.ble low && high.ble a.last && a.step == 1

theorem Shift.contains_iff {s : Shift} {n : Nat} :
    s.contains n = true ↔ s.first ≤ n ∧ n ≤ s.last ∧ (n - s.first) % s.step = 0 := by
  simp [Shift.contains, and_assoc]

theorem alphabeticSpans_valid : ∀ a ∈ alphabeticSpans,
    128 ≤ a.first ∧ (a.last < 0xD800 ∨ 0xDFFF < a.first ∧ a.last < 0x110000) := by
  decide +kernel

theorem isAlphabetic_of_covers {a : Span} {low high n : Nat} (ha : a ∈ alphabeticSpans)
    (hcovers : a.covers low high = true) (hn : low ≤ n ∧ n ≤ high) :
    isAscii (Char.ofNat n) = false ∧ isAlphabetic (Char.ofNat n) = true := by
  simp only [Span.covers, Bool.and_eq_true, beq_iff_eq, Nat.ble_eq] at hcovers
  obtain ⟨⟨hfirst, hlast⟩, hstep⟩ := hcovers
  obtain ⟨habove, hrange⟩ := alphabeticSpans_valid a ha
  have hcode : (Char.ofNat n).toNat = n := by
    have hvalid : n.isValidChar := by
      unfold Nat.isValidChar
      omega
    exact congrArg Char.toNat (show Char.ofNat n = Char.ofNatAux n hvalid from dif_pos hvalid)
  have hascii : isAscii (Char.ofNat n) = false := by
    rw [isAscii, hcode, decide_eq_false_iff_not]
    omega
  refine ⟨hascii, ?_⟩
  rw [isAlphabetic, hascii, if_neg Bool.false_ne_true, inSpans_iff]
  refine ⟨a, ha, Span.contains_iff.2 ?_⟩
  rw [hcode, hstep]
  exact ⟨by omega, by omega, Nat.mod_one _⟩

/-- Each span of the table is moved into one of letters, but for a sign that is a small `k`. -/
theorem loweringShifts_covered : loweringShifts.all (fun s =>
    alphabeticSpans.any (·.covers (s.target s.first) (s.target s.last)) ||
      s.first == s.last && s.target s.first == 'k'.toNat) = true := by
  decide +kernel

theorem ofNat_target {s : Shift} {n : Nat} (hs : s ∈ loweringShifts) (hn : s.contains n = true) :
    Char.ofNat (s.target n) = 'k' ∨ isAscii (Char.ofNat (s.target n)) = false ∧
      isAlphabetic (Char.ofNat (s.target n)) = true := by
  obtain ⟨hfirst, hlast, -⟩ := Shift.contains_iff.1 hn
  have hcovered := List.all_eq_true.1 loweringShifts_covered s hs
  rw [Bool.or_eq_true, List.any_eq_true, Bool.and_eq_true, beq_iff_eq, beq_iff_eq] at hcovered
  rcases hcovered with ⟨a, ha, hcovers⟩ | ⟨hsingle, hk⟩
  · refine .inr (isAlphabetic_of_covers ha hcovers ?_)
    unfold Shift.target
    omega
  · have hone : n = s.first := by omega
    rw [hone, hk]
    exact .inl rfl

/-- A character above ASCII has a lower form above it, or is a sign for a small `k`. -/
theorem shifted_lowering {c : Char} (hc : isAscii c = false) :
    shifted loweringShifts c = 'k' ∨ isAscii (shifted loweringShifts c) = false ∧
      (isAlphanumeric c = true → isAlphanumeric (shifted loweringShifts c) = true) := by
  unfold shifted
  split
  · rename_i s hs
    have hin := List.find?_some hs
    refine (ofNat_target (List.mem_of_find?_eq_some hs) hin).imp_right fun ⟨habove, hletter⟩ => ?_
    exact ⟨habove, fun _ => by rw [isAlphanumeric, hletter, Bool.true_or]⟩
  · exact .inr ⟨hc, id⟩

/-- Letters and digits, and the dot above that is left of a lower form. -/
def isStemChar (c : Char) : Bool := isAlphanumeric c || c == '\u0307'

theorem isStemChar_of_mem_lowerChar {c d : Char} (hc : isAlphanumeric c = true)
    (hd : d ∈ lowerChar c) : isStemChar d = true := by
  unfold lowerChar at hd
  split at hd
  · rename_i hascii
    rw [List.mem_singleton] at hd
    subst hd
    refine forall_ascii (p := fun c => isAlphanumeric c = true → isStemChar c.toLower = true) ?_
      (by simpa [isAscii] using hascii) hc
    decide +kernel
  split at hd
  · simp only [List.mem_cons, List.not_mem_nil, or_false] at hd
    rcases hd with rfl | rfl
    · decide
    · exact Bool.or_true _
  · rename_i hascii _
    rw [List.mem_singleton] at hd
    subst hd
    rcases shifted_lowering (Bool.eq_false_iff.2 hascii) with hk | ⟨-, hkeeps⟩
    · rw [hk]
      decide
    · rw [isStemChar, hkeeps hc, Bool.true_or]

theorem forall_mem_lowerWord {P : Char → Prop} {w : List Char} (hsigma : 'Σ' ∈ w → P 'ς')
    (h : ∀ c ∈ w, ∀ d ∈ lowerChar c, P d) : ∀ d ∈ lowerWord w, P d := by
  fun_induction lowerWord w with
  | case1 => simp
  | case2 c hc => exact List.forall_mem_singleton.2 (hsigma (eq_of_beq hc ▸ List.mem_cons_self))
  | case3 c => exact h c List.mem_cons_self
  | case4 c r _ ih =>
    rw [List.forall_mem_cons] at h
    exact List.forall_mem_append.2 ⟨h.1, ih (fun hr => hsigma (List.mem_cons_of_mem _ hr)) h.2⟩

theorem isStemChar_of_mem_lowerWord {w : List Char} (hw : ∀ c ∈ w, isAlphanumeric c = true) :
    ∀ d ∈ lowerWord w, isStemChar d = true :=
  forall_mem_lowerWord (fun _ => by decide) fun c hc _ => isStemChar_of_mem_lowerChar (hw c hc)

/-- Words with single hyphens between them. -/
def IsStem (s : List Char) : Prop :=
  ∃ ws, (∀ w ∈ ws, w ≠ [] ∧ ∀ c ∈ w, isStemChar c = true) ∧ s = joinWith ['-'] ws

theorem IsStem.char {s : List Char} (h : IsStem s) :
    ∀ c ∈ s, isStemChar c = true ∨ c = '-' := by
  obtain ⟨ws, hws, rfl⟩ := h
  intro c hc
  rcases mem_joinWith hc with hc | ⟨w, hw, hc⟩
  · exact .inr (List.mem_singleton.1 hc)
  · exact .inl ((hws w hw).2 c hc)

/-- A hyphen stands between two words. -/
theorem IsStem.hyphen {s a b : List Char} (h : IsStem s) (hs : s = a ++ '-' :: b) :
    a ≠ [] ∧ b ≠ [] ∧ b.head? ≠ some '-' := by
  obtain ⟨ws, hws, rfl⟩ := h
  have hne : ws ≠ [] := by
    rintro rfl
    simp [joinWith] at hs
  have hhyphen : '-' ∉ ws.flatten := by
    intro hmem
    obtain ⟨w, hw, hmem⟩ := List.mem_flatten.1 hmem
    exact absurd ((hws w hw).2 '-' hmem) (by decide)
  have hpieces : splitOnChar '-' a ++ splitOnChar '-' b = ws := by
    rw [← splitOnChar_joinWith hne fun w hw hmem => hhyphen (List.mem_flatten.2 ⟨w, hw, hmem⟩), hs]
    exact (splitWhere_append_cons (p := (· == '-')) rfl a b).symm
  have hwords : [] ∉ splitOnChar '-' a ∧ [] ∉ splitOnChar '-' b := by
    rw [← not_or, ← List.mem_append, hpieces]
    exact fun hmem => (hws [] hmem).1 rfl
  refine ⟨?_, ?_, fun hhead => ?_⟩
  · rintro rfl
    exact hwords.1 List.mem_cons_self
  · rintro rfl
    exact hwords.2 List.mem_cons_self
  · obtain ⟨r, rfl⟩ := List.head?_eq_some_iff.1 hhead
    exact hwords.2 (by simp [splitOnChar, splitWhere])

end Text

open Text

theorem toList_moduleStem (table : String) :
    (moduleStem table).toList = joinWith ['-'] (lowerWords table.toList) := String.toList_ofList

theorem isStem_moduleStem (table : String) : IsStem (moduleStem table).toList := by
  refine ⟨lowerWords table.toList, fun w hw => ?_, toList_moduleStem table⟩
  obtain ⟨v, hv, rfl⟩ := List.mem_map.1 hw
  refine ⟨lowerWord_ne_nil (ne_nil_of_mem_words hv), isStemChar_of_mem_lowerWord fun c hc => ?_⟩
  exact isAlphanumeric_of_mem_words hv hc

/-- Line breaks of every kind. -/
def isLineBreak (c : Char) : Bool :=
  ['\n', '\x0b', '\x0c', '\r', '\u0085', '\u2028', '\u2029'].contains c

/-- Characters by which a name could lead out of its directory or out of its literal. -/
def isSteering (c : Char) : Bool :=
  ['/', '\\', '\x00', '\'', '"', '\x60'].contains c || isLineBreak c

/-- A name with a plain stem and an ending. -/
structure IsModuleName (stem name : List Char) : Prop where
  ending : name = stem ++ ".ts".toList
  chars : ∀ c ∈ stem, isStemChar c = true ∨ c = '-'
  steering : ∀ c ∈ name, isSteering c = false
  dot : name.count '.' = 1
  first : stem.head? ≠ some '-'
  last : stem.getLast? ≠ some '-'
  single : ¬['-', '-'] <:+: stem

theorem Text.IsStem.isModuleName {stem : List Char} (h : IsStem stem) :
    IsModuleName stem (stem ++ ".ts".toList) := by
  have hplain : ∀ c, isSteering c = true → isStemChar c = false ∧ c ≠ '-' := by
    have hall : ∀ c ∈ ['/', '\\', '\x00', '\'', '"', '\x60', '\n', '\x0b', '\x0c', '\r', '\u0085',
        '\u2028', '\u2029'], isStemChar c = false ∧ c ≠ '-' :=
      Check.forall_mem_of_all (by decide +kernel)
    intro c hc
    exact hall c (by simpa [isSteering, isLineBreak, or_assoc] using hc)
  have hstem : ∀ c ∈ stem, isSteering c = false := by
    intro c hc
    by_contra hsteering
    obtain ⟨hchar, hhyphen⟩ := hplain c (by simpa using hsteering)
    rcases h.char c hc with hc | hc
    · exact Bool.false_ne_true (hchar.symm.trans hc)
    · exact hhyphen hc
  have hending : ∀ c ∈ ".ts".toList, isSteering c = false := Check.forall_mem_of_all (by decide)
  have hdot : '.' ∉ stem := by
    intro hmem
    exact absurd (h.char '.' hmem) (by decide)
  refine ⟨rfl, h.char, ?_, ?_, fun hhead => ?_, fun hlast => ?_, ?_⟩
  · intro c hc
    rcases List.mem_append.1 hc with hc | hc
    · exact hstem c hc
    · exact hending c hc
  · rw [List.count_append, List.count_eq_zero.2 hdot]
    decide
  · obtain ⟨r, hr⟩ := List.head?_eq_some_iff.1 hhead
    exact (h.hyphen (a := []) hr).1 rfl
  · obtain ⟨a, ha⟩ := List.getLast?_eq_some_iff.1 hlast
    exact (h.hyphen ha).2.1 rfl
  · rintro ⟨a, b, hab⟩
    exact (h.hyphen (a := a) (b := '-' :: b) (by simp [← hab])).2.2 rfl

namespace FileSystem

variable {fs : FileSystem} {here place : Location}

theorem enter_eq_step {part : String} (h : fs.enter here part = .ok place) :
    place = step here part := by
  by_cases hdots : part = "." ∨ part = ".."
  · rw [enter_of_dots hdots] at h
    exact (Except.ok.inj h).symm
  · rw [enter_of_name hdots] at h
    split at h
    · contradiction
    split at h
    · exact (Except.ok.inj h).symm
    all_goals contradiction

theorem foldlM_enter_eq {parts : List String} (h : parts.foldlM fs.enter here = .ok place) :
    place = parts.foldl step here := by
  induction parts generalizing here with
  | nil => exact (Except.ok.inj h).symm
  | cons part rest ih =>
    rw [List.foldlM_cons] at h
    cases henter : fs.enter here part with
    | error e =>
      rw [henter] at h
      contradiction
    | ok next =>
      rw [henter] at h
      rw [ih h, enter_eq_step henter]
      rfl

/-- Whatever is there, a name is not written anywhere but in the directory of its path. -/
theorem filePlace_join {path name : String} (hname : Path.IsName name)
    (h : fs.filePlace (Path.join path name) = .ok place) : place = fs.goal path ++ [name] := by
  rw [filePlace, target_join hname] at h
  cases hnul : (Path.join path name).toList.contains '\x00' with
  | true =>
    rw [hnul] at h
    contradiction
  | false =>
    rw [hnul] at h
    cases hparent : (Path.parts path).foldlM fs.enter (fs.start path) with
    | error e =>
      rw [hparent] at h
      contradiction
    | ok parent =>
      obtain rfl : parent = fs.goal path := foldlM_enter_eq hparent
      rw [hparent] at h
      by_cases hlong : nameLimit < name.utf8ByteSize
      · simp only [hlong, if_true] at h
        contradiction
      · simp only [hlong, if_false] at h
        change (if (false || fs.node? (fs.goal path ++ [name]) == some .directory) = true
          then (.error .isADirectory : Except IoError Location)
          else .ok (fs.goal path ++ [name])) = .ok place at h
        split at h
        · contradiction
        · exact (Except.ok.inj h).symm

/-- A file is written under its name, or nothing is written: then the path does not lead to a
directory, or the directory takes no file of that name. -/
theorem write_join (fs : FileSystem) (path content : String) {name : String}
    (hname : Path.IsName name) : fs.write (Path.join path name) content =
        (fs.put (fs.goal path ++ [name]) (.file content), .ok ()) ∨
      ¬(fs.Resolves path ∧ fs.Accepts path name) ∧
        ∃ e, fs.write (Path.join path name) content = (fs, .error e) := by
  rw [write]
  cases hplace : fs.filePlace (Path.join path name) with
  | ok place =>
    rw [← filePlace_join hname hplace]
    exact .inl rfl
  | error e =>
    refine .inr ⟨?_, e, rfl⟩
    rintro ⟨hresolves, haccepts⟩
    have hok := (hresolves.filePlace_join hname).2 ⟨haccepts, rfl⟩
    rw [hplace] at hok
    contradiction

end FileSystem

namespace DirectoryStore

/-- A module is written directly under the directory, or nothing is. -/
theorem writeTable_child (directory : String) (clean : Bool) {r : RenderedModule}
    (hname : Path.IsName r.fileName) (s : DirectoryStore) :
    (∃ written, (writer directory clean).writeTable r s =
        (⟨s.system.put (s.system.goal directory ++ [r.fileName]) (.file r.content), written⟩,
          .ok ())) ∨
      ¬(s.system.Resolves directory ∧ s.system.Accepts directory r.fileName) ∧
        ∃ e, (writer directory clean).writeTable r s = (s, .error e) := by
  have hcall : (writer directory clean).writeTable r s =
      writeFile directory r.fileName r.content s := rfl
  rw [hcall]
  delta writeFile
  dsimp only
  rcases s.system.write_join directory r.content hname with hwrite | ⟨hrefuses, e, hwrite⟩
  · rw [hwrite]
    exact .inl ⟨_, rfl⟩
  · rw [hwrite]
    exact .inr ⟨hrefuses, .io e, rfl⟩

end DirectoryStore

namespace ModuleText

/-- The module of which a line exports everything. -/
def exportTarget? (line : List Char) : Option (List Char) :=
  if line.any isLineBreak then none
  else
    match (after? "export * from ".toList line).bind readLiterals with
    | some ([target], [';']) => some target
    | _ => none

theorem flatMap_escapeChar_eq_self {v : List Char} (h : ∀ c ∈ v, isSteering c = false ∨ c = '/') :
    v.flatMap escapeChar = v := by
  have hchar : ∀ c ∈ v, escapeChar c = [c] := by
    intro c hc
    have hsteering : ∀ d ∈ ['\\', '\'', '\n'], ¬(isSteering d = false ∨ d = '/') :=
      Check.forall_mem_of_all (by decide)
    have hne : ∀ d ∈ ['\\', '\'', '\n'], c ≠ d := by
      rintro d hd rfl
      exact hsteering c hd (h c hc)
    simp only [List.mem_cons, List.not_mem_nil, or_false, forall_eq_or_imp, forall_eq] at hne
    rw [escapeChar, if_neg hne.1, if_neg hne.2.1, if_neg hne.2.2]
  rw [List.flatMap_congr hchar, List.flatMap_singleton']

theorem exportTarget?_eq {v : List Char} (h : ∀ c ∈ v, isSteering c = false ∨ c = '/') :
    exportTarget? ("export * from ".toList ++ (quoted v ++ [';'])) = some v := by
  have hread : readLiterals (quoted v ++ [';']) = some ([v], [';']) :=
    readLiterals_quoted v (by decide)
  have hafter : after? "export * from ".toList ("export * from ".toList ++ (quoted v ++ [';'])) =
      some (quoted v ++ [';']) := by
    rw [after?, if_pos (List.isPrefixOf_iff_prefix.2 (List.prefix_append ..)), List.drop_left]
  have hbreaks : ("export * from ".toList ++ (quoted v ++ [';'])).any isLineBreak = false := by
    have hlead : "export * from ".toList.any isLineBreak = false := by decide
    have hv : v.any isLineBreak = false := by
      rw [List.any_eq_false]
      intro c hc hbreak
      rcases h c hc with hplain | rfl
      · rw [isSteering, hbreak, Bool.or_true] at hplain
        contradiction
      · exact absurd hbreak (by decide)
    simp only [quoted, flatMap_escapeChar_eq_self h, List.any_append, List.any_cons, hlead, hv]
    decide
  rw [exportTarget?, hbreaks, if_neg Bool.false_ne_true, hafter, Option.bind_some, hread]
  rfl

end ModuleText

open ModuleText

/-- The module of a table is named by the words of the name of the table, whatever that is: a writer
for a directory puts it directly under the directory, if that is there and takes it, and nowhere
else, and its line in the index is one export of it. -/
theorem ModelBuilder.build_file_contained (b : ModelBuilder) (t : Table) :
    ∃ m, (b.build {} t).outcome = .ok m ∧
      m.fileName.toList = joinWith ['-'] (lowerWords t.name.toList) ∧
      IsModuleName m.fileName.toList (m.emit b.profile).fileName.toList ∧
      (∀ directory clean s,
        (∃ written, (DirectoryStore.writer directory clean).writeTable (m.emit b.profile) s =
          (⟨s.system.put (s.system.goal directory ++ [(m.emit b.profile).fileName])
            (.file (m.emit b.profile).content), written⟩, .ok ())) ∨
        ¬(s.system.Resolves directory ∧
            s.system.Accepts directory (m.emit b.profile).fileName) ∧
          ∃ e, (DirectoryStore.writer directory clean).writeTable (m.emit b.profile) s =
            (s, .error e)) ∧
      exportTarget? (m.emit b.profile).indexLine.toList = some ("./" ++ m.fileName).toList := by
  have hname := (isStem_moduleStem t.name).isModuleName
  refine ⟨b.plainModel t, b.build_outcome t, toList_moduleStem t.name, ?_,
    fun directory clean s => ?_, ?_⟩
  · show IsModuleName (moduleStem t.name).toList (moduleStem t.name ++ ".ts").toList
    rwa [String.toList_append]
  · exact DirectoryStore.writeTable_child directory clean (Path.isName_module t.name) s
  · show exportTarget? ("export * from './" ++ moduleStem t.name ++ "';").toList =
      some ("./" ++ moduleStem t.name).toList
    have hlead : ∀ c ∈ "./".toList, isSteering c = false ∨ c = '/' :=
      Check.forall_mem_of_all (by decide)
    have hchars : ∀ c ∈ "./".toList ++ (moduleStem t.name).toList,
        isSteering c = false ∨ c = '/' := by
      intro c hc
      rcases List.mem_append.1 hc with hc | hc
      · exact hlead c hc
      · exact .inl (hname.steering c (List.mem_append_left _ hc))
    have hline : ("export * from './" ++ moduleStem t.name ++ "';").toList =
        "export * from ".toList ++
          (quoted ("./".toList ++ (moduleStem t.name).toList) ++ [';']) := by
      rw [quoted, flatMap_escapeChar_eq_self hchars]
      simp
    rw [hline, exportTarget?_eq hchars, String.toList_append]

example : moduleStem "../../etc/passwd'\n;--İ" = "etc-passwd-i\u0307" := by decide +kernel

end ZodCatalog
