import ZodCatalog.Proofs.ConstantValues

/-! The keys of the objects of a module. A key stands for the cased name of its column, so that a
column is lost where two names have one form: the joined styles keep the lower-case words of a
name apart, the others only the text that the words make. Plain names keep their form in every
style, since their words can be read off it again. -/

namespace ZodCatalog

namespace Text

/-- A small ASCII letter with small letters and digits behind it. -/
def IsPlainWord (w : List Char) : Prop :=
  ∃ c r, w = c :: r ∧ c.isLower = true ∧ ∀ d ∈ r, d.isLower = true ∨ d.isDigit = true

/-- Plain words with a low line between neighbours. -/
def IsPlainName (s : List Char) : Prop :=
  ∃ ws, (∀ w ∈ ws, IsPlainWord w) ∧ s = joinWith ['_'] ws

/-- A capital letter as the small one, with a low line in front of it. -/
def unhumped (c : Char) : List Char := if c.isUpper then ['_', c.toLower] else [c]

theorem isPlain_of_mem {w : List Char} (h : IsPlainWord w) :
    ∀ d ∈ w, d.isLower = true ∨ d.isDigit = true := by
  obtain ⟨c, r, rfl, hc, hr⟩ := h
  exact List.forall_mem_cons.2 ⟨.inl hc, hr⟩

/-- What holds of the ASCII characters one by one. -/
theorem forall_ascii {p : Char → Prop} (h : ∀ n < 128, p (Char.ofNat n)) {c : Char}
    (hc : c.toNat < 128) : p c := by
  have hchar := h c.toNat hc
  rwa [Char.ofNat_toNat] at hchar

theorem toNat_lt_of_plain {d : Char} (h : d.isLower = true ∨ d.isDigit = true) : d.toNat < 128 := by
  rcases h with h | h
  · have hrange := isLower_iff.1 h
    omega
  · have hrange : d.isDigit = (decide (d.val ≥ 48) && decide (d.val ≤ 57)) := rfl
    simp [hrange, UInt32.le_iff_toNat_le] at h
    omega

/-- The characters of plain words are no capitals, and are their own lower forms. -/
theorem plain_char {d : Char} (h : d.isLower = true ∨ d.isDigit = true) :
    isAlphanumeric d = true ∧ isUppercase d = false ∧ d.isUpper = false ∧ lowerChar d = [d] := by
  refine forall_ascii (p := fun d => d.isLower = true ∨ d.isDigit = true → isAlphanumeric d = true ∧
    isUppercase d = false ∧ d.isUpper = false ∧ lowerChar d = [d]) ?_ (toNat_lt_of_plain h) h
  decide +kernel

theorem unhumped_upperChar {c : Char} (h : c.isLower = true) :
    (upperChar c).flatMap unhumped = ['_', c] := by
  refine forall_ascii
    (p := fun c => c.isLower = true → (upperChar c).flatMap unhumped = ['_', c]) ?_
    (toNat_lt_of_plain (.inl h)) h
  decide +kernel

theorem humps_plain {s : List Char} (hs : s ≠ []) (h : ∀ d ∈ s, isUppercase d = false)
    (m : Stretch) : humps m s = [s] := by
  fun_induction humps m s with
  | case1 => contradiction
  | case2 => rfl
  | case3 m c d r hlow => simp [h d (by simp)] at hlow
  | case4 m c d r hlow hup => simp [h c (by simp)] at hup
  | case5 m c d r hlow hup ih => rw [ih (by simp) fun e he => h e (.tail _ he)]; rfl

theorem words_plain {ws : List (List Char)} (h : ∀ w ∈ ws, IsPlainWord w) :
    words (joinWith ['_'] ws) = ws := by
  have hsingle {w : List Char} (hw : IsPlainWord w) : words w = [w] := by
    have hchars := isPlain_of_mem hw
    have hne : w ≠ [] := by
      obtain ⟨c, r, rfl, -⟩ := hw
      exact List.cons_ne_nil c r
    have hrun : splitWhere (fun c => !isAlphanumeric c) w = [w] :=
      splitWhere_of_none fun d hd => by simp [(plain_char (hchars d hd)).1]
    have hhumps := humps_plain hne (fun d hd => (plain_char (hchars d hd)).2.1) .fresh
    rw [words, hrun, List.flatMap_singleton, hhumps]
  induction ws with
  | nil => rfl
  | cons w ws ih =>
    rw [List.forall_mem_cons] at h
    cases ws with
    | nil => exact hsingle h.1
    | cons v ws =>
      have hjoin : joinWith ['_'] (w :: v :: ws) = w ++ '_' :: joinWith ['_'] (v :: ws) := by
        simp [joinWith]
      rw [hjoin, words_append_cons (by decide), hsingle h.1, ih h.2]
      rfl

theorem lowerWord_eq_self {w : List Char} (h : ∀ d ∈ w, lowerChar d = [d]) : lowerWord w = w := by
  fun_induction lowerWord w with
  | case1 => rfl
  | case2 c hc =>
    obtain rfl := eq_of_beq hc
    exact absurd (h 'Σ' List.mem_cons_self) (by decide)
  | case3 c hc => exact h c (by simp)
  | case4 c r hr ih => rw [h c (by simp), ih fun d hd => h d (.tail _ hd)]; rfl

theorem flatMap_unhumped {w : List Char} (h : ∀ d ∈ w, d.isUpper = false) :
    w.flatMap unhumped = w := by
  induction w with
  | nil => rfl
  | cons c r ih =>
    rw [List.forall_mem_cons] at h
    rw [List.flatMap_cons, ih h.2, unhumped, h.1]
    rfl

/-- The hump of a plain word shows where the word starts. -/
theorem unhumped_capitalWord {w : List Char} (h : IsPlainWord w) :
    (capitalWord w).flatMap unhumped = '_' :: w := by
  obtain ⟨c, r, rfl, hc, hr⟩ := h
  have hlower : lowerWord r = r := lowerWord_eq_self fun d hd => (plain_char (hr d hd)).2.2.2
  rw [capitalWord, hlower, List.flatMap_append, unhumped_upperChar hc,
    flatMap_unhumped fun d hd => (plain_char (hr d hd)).2.2.1]
  rfl

theorem unhumped_capitalWords {ws : List (List Char)} (h : ∀ w ∈ ws, IsPlainWord w) :
    (ws.flatMap capitalWord).flatMap unhumped = ws.flatMap ('_' :: ·) := by
  rw [List.flatMap_assoc]
  exact List.flatMap_congr fun w hw => unhumped_capitalWord (h w hw)

theorem lowerWord_plain {w : List Char} (h : IsPlainWord w) : lowerWord w = w :=
  lowerWord_eq_self fun d hd => (plain_char (isPlain_of_mem h d hd)).2.2.2

theorem joinWith_cons_eq (sep : Char) (w : List Char) (ws : List (List Char)) :
    joinWith [sep] (w :: ws) = w ++ ws.flatMap (sep :: ·) := by
  induction ws generalizing w with
  | nil => simp [joinWith]
  | cons v ws ih =>
    show w ++ [sep] ++ joinWith [sep] (v :: ws) = _
    rw [ih v]
    simp

theorem joinWith_eq_tail (sep : Char) (ws : List (List Char)) :
    joinWith [sep] ws = (ws.flatMap (sep :: ·)).tail := by
  cases ws with
  | nil => rfl
  | cons w ws => exact joinWith_cons_eq sep w ws

/-- Joined pieces without separators are told apart by their join. -/
theorem joinWith_inj {sep : Char} {xs ys : List (List Char)} (hx : ∀ x ∈ xs, x ≠ [] ∧ sep ∉ x)
    (hy : ∀ y ∈ ys, y ≠ [] ∧ sep ∉ y) : joinWith [sep] xs = joinWith [sep] ys ↔ xs = ys := by
  refine ⟨fun h => ?_, fun h => h ▸ rfl⟩
  rcases eq_or_ne xs [] with rfl | hxs
  · exact ((joinWith_eq_nil_iff fun y hmem => (hy y hmem).1).1 h.symm).symm
  rcases eq_or_ne ys [] with rfl | hys
  · exact (joinWith_eq_nil_iff fun x hmem => (hx x hmem).1).1 h
  · rw [← splitOnChar_joinWith hxs fun x hmem => (hx x hmem).2, h,
      splitOnChar_joinWith hys fun y hmem => (hy y hmem).2]

theorem lowerChar_ne_nil (c : Char) : lowerChar c ≠ [] := by
  unfold lowerChar
  split
  · exact List.cons_ne_nil _ _
  split <;> exact List.cons_ne_nil _ _

theorem lowerWord_ne_nil {w : List Char} (h : w ≠ []) : lowerWord w ≠ [] := by
  fun_cases lowerWord w with
  | case1 => contradiction
  | case2 => exact List.cons_ne_nil _ _
  | case3 c => exact lowerChar_ne_nil c
  | case4 c r => exact List.append_ne_nil_of_left_ne_nil (lowerChar_ne_nil c) _

/-- The words of a name in lower case, by which the joined styles tell names apart. -/
def lowerWords (s : List Char) : List (List Char) := (words s).map lowerWord

theorem lowerWords_plain {ws : List (List Char)} (h : ∀ w ∈ ws, IsPlainWord w) :
    lowerWords (joinWith ['_'] ws) = ws := by
  rw [lowerWords, words_plain h, List.map_congr_left fun w hw => lowerWord_plain (h w hw),
    List.map_id']

theorem unhumped_camelWords {ws : List (List Char)} (h : ∀ w ∈ ws, IsPlainWord w) :
    (Casing.camelWords ws).flatMap unhumped = joinWith ['_'] ws := by
  cases ws with
  | nil => rfl
  | cons w ws =>
    rw [List.forall_mem_cons] at h
    have hfirst := flatMap_unhumped fun d hd => (plain_char (isPlain_of_mem h.1 d hd)).2.2.1
    rw [Casing.camelWords, lowerWord_plain h.1, List.flatMap_append, hfirst,
      unhumped_capitalWords h.2, joinWith_cons_eq]

theorem mem_lowerWords {s w : List Char} {sep : Char} (hsep : isAlphanumeric sep = false)
    (hcode : 0 < sep.toNat ∧ sep.toNat ≤ 95) (h : w ∈ lowerWords s) : w ≠ [] ∧ sep ∉ w := by
  obtain ⟨v, hv, rfl⟩ := List.mem_map.1 h
  refine ⟨lowerWord_ne_nil (ne_nil_of_mem_words hv), not_mem_lowerWord hcode fun hmem => ?_⟩
  rw [isAlphanumeric_of_mem_words hv hmem] at hsep
  contradiction

end Text

open Text

namespace Casing

/-- When two names have one form in a style. -/
def SameForm (style : Casing) (s t : List Char) : Prop :=
  match style with
  | camel => camelWords (words s) = camelWords (words t)
  | pascal => (words s).flatMap capitalWord = (words t).flatMap capitalWord
  | snake | kebab => lowerWords s = lowerWords t
  | passthrough => s = t

theorem onChars_inj (style : Casing) (s t : List Char) :
    style.onChars s = style.onChars t ↔ style.SameForm s t := by
  have hjoined {sep : Char} (hsep : isAlphanumeric sep = false)
      (hcode : 0 < sep.toNat ∧ sep.toNat ≤ 95) :
      joinWith [sep] (lowerWords s) = joinWith [sep] (lowerWords t) ↔
        lowerWords s = lowerWords t :=
    joinWith_inj (fun _ h => mem_lowerWords hsep hcode h) fun _ h => mem_lowerWords hsep hcode h
  cases style with
  | camel => rfl
  | pascal => rfl
  | snake => exact hjoined (by decide) (by decide)
  | kebab => exact hjoined (by decide) (by decide)
  | passthrough => rfl

/-- Plain names have one form only where they are one name, whatever the style. -/
theorem SameForm.eq_of_plain {style : Casing} {s t : List Char} (hs : IsPlainName s)
    (ht : IsPlainName t) (h : style.SameForm s t) : s = t := by
  obtain ⟨vs, hv, rfl⟩ := hs
  obtain ⟨ws, hw, rfl⟩ := ht
  cases style with
  | camel =>
    rw [SameForm, words_plain hv, words_plain hw] at h
    rw [← unhumped_camelWords hv, h, unhumped_camelWords hw]
  | pascal =>
    rw [SameForm, words_plain hv, words_plain hw] at h
    rw [joinWith_eq_tail, joinWith_eq_tail, ← unhumped_capitalWords hv, h,
      unhumped_capitalWords hw]
  | snake | kebab =>
    rw [SameForm, lowerWords_plain hv, lowerWords_plain hw] at h
    rw [h]
  | passthrough => exact h

end Casing

namespace ModuleText

/-- The property that a key of an object literal stands for. -/
def keyName? (key : String) : Option String :=
  if isIdentifier key.toList then some key
  else
    match readLiterals key.toList with
    | some ([name], []) => some (String.ofList name)
    | _ => none

/-- Every name is written as a key that stands for it. -/
theorem keyName?_propertyKey (name : String) : keyName? (propertyKey name) = some name := by
  unfold propertyKey
  by_cases h : isIdentifier name.toList
  · rw [if_pos h, keyName?, if_pos h]
  · have hquoted : isIdentifier (quoted name.toList) = false := rfl
    have hread : readLiterals (quoted name.toList) = some ([name.toList], []) := by
      have hrest : readLiterals (quoted name.toList ++ []) = some ([name.toList], []) :=
        readLiterals_quoted name.toList nofun
      rwa [List.append_nil] at hrest
    rw [if_neg h, keyName?, toList_singleQuoted, hquoted, hread]
    simp

theorem propertyKey_inj {name name' : String} :
    propertyKey name = propertyKey name' ↔ name = name' := by
  refine ⟨fun h => ?_, fun h => h ▸ rfl⟩
  have hname := congrArg keyName? h
  rw [keyName?_propertyKey, keyName?_propertyKey] at hname
  exact Option.some.inj hname

/-- An entry of an object literal. -/
structure Entry where
  comment : String
  key : String
  expression : String

def Entry.text (e : Entry) : String :=
  e.comment ++ "  " ++ e.key ++ ": " ++ e.expression ++ ",\n"

/-- The entry that a column has in an object. -/
def entry (expression : ColumnModel → String) (m : ColumnModel) : Entry where
  comment := match m.column.description with
    | some description => String.ofList (docComment description.toList)
    | none => ""
  key := propertyKey m.propertyName
  expression := expression m

def objectText (entries : List Entry) : String :=
  "z.object(\x7b\n" ++ String.join (entries.map Entry.text) ++ "\x7d)"

theorem objectBody_eq (columns : List ColumnModel) (expression : ColumnModel → String) :
    objectBody columns expression = objectText (columns.map (entry expression)) := by
  rw [objectBody, objectText, List.map_map]
  rfl

end ModuleText

open ModuleText

namespace TableModel

def selectEntries (m : TableModel) : List Entry := m.columns.map (entry (·.readType))

def insertEntries (m : TableModel) : List Entry := m.writableColumns.map (entry (·.writeType))

theorem select_mem_statements (p : DialectProfile) (m : TableModel) :
    .value m.names.selectSchema (objectText m.selectEntries) ∈ statements p m := by
  rw [selectEntries, ← objectBody_eq]
  simp [statements, selectStatements]

theorem insert_mem_statements (p : DialectProfile) {m : TableModel} (h : m.supportsWrite = true) :
    .value m.names.insertSchema (objectText m.insertEntries) ∈ statements p m := by
  rw [insertEntries, ← objectBody_eq]
  simp [statements, writeStatements, h]

end TableModel

namespace ModelBuilder

variable (b : ModelBuilder) (t : Table)

/-- Columns whose names have different forms in the style of properties. -/
def FormsApart (cs : List Column) : Prop :=
  cs.Pairwise fun c d => ¬b.naming.fieldCasing.SameForm c.name.toList d.name.toList

/-- What a model keeps of the columns of a table in the objects that are written for it. -/
structure KeepsColumns (m : TableModel) : Prop where
  properties : m.columns.map (·.propertyName) =
    t.columns.map fun c => b.naming.fieldCasing.apply c.name
  select_names : m.selectEntries.map (keyName? ·.key) =
    t.columns.map fun c => some (b.naming.fieldCasing.apply c.name)
  insert_names : m.insertEntries.map (keyName? ·.key) =
    (t.columns.filter (·.isWritable)).map fun c => some (b.naming.fieldCasing.apply c.name)
  properties_apart : (m.columns.map (·.propertyName)).Nodup ↔ b.FormsApart t.columns
  select_apart : (m.selectEntries.map (·.key)).Nodup ↔ b.FormsApart t.columns
  insert_apart : (m.insertEntries.map (·.key)).Nodup ↔
    b.FormsApart (t.columns.filter (·.isWritable))

/-- Distinct names are enough where names are kept, and where all of them are plain. -/
theorem formsApart_of_plain (hnames : (t.columns.map (·.name)).Nodup)
    (h : b.naming.fieldCasing = .passthrough ∨ ∀ c ∈ t.columns, IsPlainName c.name.toList) :
    b.FormsApart t.columns := by
  rw [List.nodup_iff_pairwise_ne, List.pairwise_map] at hnames
  rcases h with hkeeps | hplain
  · refine hnames.imp fun hne hform => hne ?_
    rw [hkeeps] at hform
    exact String.toList_inj.1 hform
  · refine hnames.imp_of_mem fun hc hd hne hform => hne ?_
    exact String.toList_inj.1 (hform.eq_of_plain (hplain _ hc) (hplain _ hd))

section Keys

variable (table : String) (cs : List Column) (expression : ColumnModel → String)

theorem properties_nodup_iff :
    (cs.map fun c => b.naming.fieldCasing.apply c.name).Nodup ↔ b.FormsApart cs := by
  rw [List.nodup_iff_pairwise_ne, List.pairwise_map, FormsApart]
  simp only [Casing.apply, ne_eq, String.ofList_inj, Casing.onChars_inj]

theorem map_key_entry :
    ((cs.map (b.columnModel table)).map (entry expression)).map (·.key) =
      (cs.map fun c => b.naming.fieldCasing.apply c.name).map propertyKey := by
  simp only [List.map_map]
  rfl

theorem map_keyName?_entry :
    ((cs.map (b.columnModel table)).map (entry expression)).map (keyName? ·.key) =
      cs.map fun c => some (b.naming.fieldCasing.apply c.name) := by
  have hkeys := congrArg (List.map keyName?) (b.map_key_entry table cs expression)
  rw [List.map_map] at hkeys
  simpa [Function.comp_def, keyName?_propertyKey] using hkeys

theorem keys_nodup_iff :
    (((cs.map (b.columnModel table)).map (entry expression)).map (·.key)).Nodup ↔
      b.FormsApart cs := by
  rw [map_key_entry, ← properties_nodup_iff]
  exact List.nodup_map_iff fun _ _ => propertyKey_inj.1

end Keys

theorem keepsColumns_plainModel : b.KeepsColumns t (b.plainModel t) := by
  have hproperties : (b.plainModel t).columns.map (·.propertyName) =
      t.columns.map fun c => b.naming.fieldCasing.apply c.name := by
    show (t.columns.map (b.columnModel t.name)).map (·.propertyName) = _
    rw [List.map_map]
    rfl
  have hwritable : (b.plainModel t).writableColumns =
      (t.columns.filter (·.isWritable)).map (b.columnModel t.name) := by
    show (t.columns.map (b.columnModel t.name)).filter (·.column.isWritable) = _
    rw [List.filter_map]
    rfl
  refine ⟨hproperties, b.map_keyName?_entry .., ?_, ?_, b.keys_nodup_iff .., ?_⟩
  · rw [TableModel.insertEntries, hwritable, map_keyName?_entry]
  · rw [hproperties, properties_nodup_iff]
  · rw [TableModel.insertEntries, hwritable, keys_nodup_iff]

/-- Building the model of a table succeeds, and the objects of its module have the cased names of
the columns for keys, each once exactly if no two of them have one form. Distinct names have forms
of their own where names are kept as they are and where all of them are plain. -/
theorem build_keys_apart_iff :
    ∃ m, (b.build {} t).outcome = .ok m ∧ b.KeepsColumns t m ∧
      (m.emit b.profile).content = preamble m ++ b.profile.importLine ++ "\n" ++
        statementText (statements b.profile m) ∧
      .value m.names.selectSchema (objectText m.selectEntries) ∈ statements b.profile m ∧
      (m.supportsWrite = true →
        .value m.names.insertSchema (objectText m.insertEntries) ∈ statements b.profile m) ∧
      ((t.columns.map (·.name)).Nodup →
        (b.naming.fieldCasing = .passthrough ∨ ∀ c ∈ t.columns, IsPlainName c.name.toList) →
          (m.selectEntries.map (·.key)).Nodup ∧ (m.insertEntries.map (·.key)).Nodup) := by
  have hkeeps := b.keepsColumns_plainModel t
  refine ⟨b.plainModel t, b.build_outcome t, hkeeps, content_eq b.profile _,
    TableModel.select_mem_statements b.profile _, TableModel.insert_mem_statements b.profile,
    fun hnames h => ?_⟩
  have hapart := b.formsApart_of_plain t hnames h
  exact ⟨hkeeps.select_apart.2 hapart, hkeeps.insert_apart.2 (hapart.filter _)⟩

theorem build_keys_apart_users :
    let b : ModelBuilder := ⟨{}, Dialect.zod4.profile, {}, none⟩
    let raw (name : String) : RawColumn :=
      ⟨name, "users", .table, "public", "int4", false, none, none, none, [], [], 1⟩
    let t : Table := ⟨"public", "users", .table, [(raw "id").describe, (raw "user_id2").describe]⟩
    ∃ m, (b.build {} t).outcome = .ok m ∧ (m.selectEntries.map (·.key)).Nodup ∧
      (m.insertEntries.map (·.key)).Nodup := by
  intro b raw t
  have hplain : ∀ c ∈ t.columns, IsPlainName c.name.toList := by
    have hid : IsPlainWord "id".toList :=
      ⟨'i', ['d'], rfl, by decide, Check.forall_mem_of_all (by decide)⟩
    have huser : IsPlainWord "user".toList :=
      ⟨'u', "ser".toList, rfl, by decide, Check.forall_mem_of_all (by decide)⟩
    have hid2 : IsPlainWord "id2".toList :=
      ⟨'i', "d2".toList, rfl, by decide, Check.forall_mem_of_all (by decide)⟩
    refine List.forall_mem_cons.2 ⟨⟨["id".toList], List.forall_mem_singleton.2 hid, rfl⟩, ?_⟩
    exact List.forall_mem_singleton.2 ⟨["user".toList, "id2".toList],
      List.forall_mem_cons.2 ⟨huser, List.forall_mem_singleton.2 hid2⟩, by decide⟩
  obtain ⟨m, hbuilt, -, -, -, -, hkeys⟩ := build_keys_apart_iff b t
  exact ⟨m, hbuilt, hkeys (by decide) (.inr hplain)⟩

/-- Two names that differ in case and separators alone have one key. -/
theorem build_key_lost :
    let b : ModelBuilder := ⟨{}, Dialect.zod4.profile, {}, none⟩
    let raw (name : String) : RawColumn :=
      ⟨name, "users", .table, "public", "int4", false, none, none, none, [], [], 1⟩
    let t : Table := ⟨"public", "users", .table,
      [(raw "user_id").describe, (raw "userId").describe]⟩
    (t.columns.map (·.name)).Nodup ∧ ∃ m, (b.build {} t).outcome = .ok m ∧
      m.columns.map (·.propertyName) = ["userId", "userId"] ∧
      ¬(m.selectEntries.map (·.key)).Nodup ∧ ¬(m.insertEntries.map (·.key)).Nodup := by
  intro b raw t
  suffices hlost : (t.columns.map (·.name)).Nodup ∧
      (b.plainModel t).columns.map (·.propertyName) = ["userId", "userId"] ∧
      ¬((b.plainModel t).selectEntries.map (·.key)).Nodup ∧
      ¬((b.plainModel t).insertEntries.map (·.key)).Nodup from
    ⟨hlost.1, b.plainModel t, b.build_outcome t, hlost.2⟩
  decide +kernel

end ModelBuilder
end ZodCatalog
