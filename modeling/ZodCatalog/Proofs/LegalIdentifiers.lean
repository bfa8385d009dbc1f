import ZodCatalog.Proofs.Alphabets
import ZodCatalog.Proofs.DeclaredNames
import ZodCatalog.Proofs.SingularForms

/-! When the names that a module declares and imports are identifiers. Schemas and types of the
table start with a verb. The names that a column gives start with what the table and the column are
called, so that a digit there, or no letter at all, is where they fail. A plural starts as its
singular does, since only an ending in ASCII letters is new. -/

namespace ZodCatalog

namespace Text

/-- Texts that differ in an ending of ASCII letters, which is not taken off but replaced. -/
inductive Reended : List Char → List Char → Prop
  | intro (p u v : List Char) (hu : ∀ c ∈ u, c.isAlpha = true) (hv : ∀ c ∈ v, c.isAlpha = true)
      (hne : u ≠ [] → v ≠ []) : Reended (p ++ u) (p ++ v)

namespace Reended

variable {A : Alphabet} {s t : List Char}

theorem refl (s : List Char) : Reended s s := by
  simpa using Reended.intro s [] [] (by simp) (by simp) id

theorem extend (s : List Char) {v : List Char} (hv : ∀ c ∈ v, c.isAlpha = true) :
    Reended s (s ++ v) := by
  simpa using Reended.intro s [] v (by simp) hv (absurd rfl)

theorem append_left (a : List Char) (h : Reended s t) : Reended (a ++ s) (a ++ t) := by
  obtain ⟨p, u, v, hu, hv, hne⟩ := h
  simpa using Reended.intro (a ++ p) u v hu hv hne

theorem spells_shouting_iff (h : Reended s t) :
    A.Spells (shouting s) ↔ A.Spells (shouting t) := by
  have hletters {v : List Char} (hv : ∀ c ∈ v, c.isAlpha = true) :
      ∀ c ∈ v, isAlphanumeric c = true → A.Spells (upperChar c) := fun c hc _ =>
    Alphabet.spells_of_isAlpha (List.all_eq_true.1 (alpha_char (hv c hc)).2)
  obtain ⟨p, u, v, hu, hv, -⟩ := h
  simp only [Alphabet.spells_shouting, List.forall_mem_append, and_iff_left (hletters hu),
    and_iff_left (hletters hv)]

theorem opens (h : Reended s t) (hs : ∃ c, leading s = some c ∧ A.Opens c) :
    ∃ c, leading t = some c ∧ A.Opens c := by
  obtain ⟨p, u, v, -, hv, hne⟩ := h
  obtain ⟨c, hc, hopens⟩ := hs
  rw [leading_append] at hc ⊢
  cases hp : leading p with
  | some d =>
    rw [hp, Option.some_or] at hc
    exact ⟨c, hc, hopens⟩
  | none =>
    -- What the plain text starts with is in its ending, and the other has an ending of letters.
    rw [hp, Option.none_or] at hc
    have hu : u ≠ [] := by
      rintro rfl
      contradiction
    obtain ⟨d, r, rfl⟩ := List.exists_cons_of_ne_nil (hne hu)
    obtain ⟨halnum, hupper⟩ := alpha_char (hv d List.mem_cons_self)
    refine ⟨d, ?_, fun e he => ?_⟩
    · rw [Option.none_or, leading, List.find?_cons_of_pos halnum]
    · have hmem : e ∈ upperChar d := List.mem_of_head? he
      exact Alphabet.isStart_of_isAlpha (List.all_eq_true.1 hupper e hmem)

end Reended

end Text

namespace Inflection

open Text

theorem irregular_letters : ∀ e ∈ irregular,
    e.1.toList.all (fun c => c.isLower && c != 'k') = true ∧ e.2.toList ≠ [] ∧
      e.2.toList.all Char.isAlpha = true ∧ capitalizeFirst e.2.toList ≠ [] ∧
        (capitalizeFirst e.2.toList).all Char.isAlpha = true := by
  decide +kernel

/-- An ending of a word is replaced where its lower form has that ending. -/
theorem reended_dropEnd {w p e r : List Char} (hlow : lower w = p ++ e)
    (he : ∀ c ∈ e, c.isLower = true ∧ c ≠ 'k') (hr : ∀ c ∈ r, c.isAlpha = true) (hne : r ≠ []) :
    Reended w (dropEnd e.length w ++ r) := by
  have hplain : '\u0307' ∉ e := fun hmem => absurd (he _ hmem).1 (by decide)
  obtain ⟨v, u, rfl, -, hu, hlength⟩ := lower_eq_append hplain hlow
  have hdrop : dropEnd e.length (v ++ u) = v := by simp [dropEnd, hlength]
  rw [hdrop]
  exact .intro v u r (isAlpha_of_lower (hu ▸ he)) hr fun _ => hne

theorem reended_pluralWord (w : List Char) : Reended w (pluralWord w) := by
  unfold pluralWord
  dsimp only
  split
  · exact .refl w
  split
  · rename_i singular plural hfind
    have hlow := List.find?_some hfind
    obtain ⟨hsingular, hne, hplural, hcapital⟩ :=
      irregular_letters _ (List.mem_of_find?_eq_some hfind)
    rw [eq_of_beq hlow] at hsingular
    have hletters : withCaseOf w plural ≠ [] ∧ (withCaseOf w plural).all Char.isAlpha = true := by
      rcases withCaseOf_cases w plural with hcase | hcase
      · rwa [hcase]
      · rw [hcase]
        exact ⟨hne, hplural⟩
    have hword : ∀ c ∈ lower w, c.isLower = true ∧ c ≠ 'k' := by
      simpa [List.all_eq_true] using hsingular
    exact .intro [] w _ (isAlpha_of_lower hword) (List.all_eq_true.1 hletters.2) fun _ => hletters.1
  split
  · rename_i hy
    obtain ⟨p, hp⟩ : ∃ p, lower w = p ++ ['y'] := by
      unfold endsInConsonantY at hy
      split at hy
      · rename_i c r hreverse
        exact ⟨(c :: r).reverse, by simpa using congrArg List.reverse hreverse⟩
      · contradiction
    exact reended_dropEnd hp (Check.forall_mem_of_all (by decide))
      (Check.forall_mem_of_all (by decide)) (by decide)
  split
  · rename_i his
    rw [Bool.and_eq_true] at his
    obtain ⟨p, hp⟩ := endsWithOneOf_singleton_iff.1 his.2
    exact reended_dropEnd hp (Check.forall_mem_of_all (by decide))
      (Check.forall_mem_of_all (by decide)) (by decide)
  split
  · exact .extend w (Check.forall_mem_of_all (by decide))
  · exact .extend w (Check.forall_mem_of_all (by decide))

theorem reended_pluralChars (s : List Char) : Reended s (pluralChars s) := by
  unfold pluralChars
  rcases onLastSegment_cases pluralWord s with hplural | ⟨a, b, rfl, hplural⟩
  · rw [hplural]
    exact reended_pluralWord s
  · have hends := (reended_pluralWord b).append_left (a ++ ['_'])
    rw [List.append_assoc, List.append_assoc] at hends
    rwa [hplural]

theorem isAscii_of_mem_singularWord {w : List Char} (h : ∀ c ∈ w, isAscii c = true) :
    ∀ c ∈ singularWord w, isAscii c = true := by
  have hw := singularOf_singularWord w
  generalize singularWord w = r at hw
  cases hw with
  | kept | singular => exact h
  | @irregular e he =>
    have hforms : ∀ e ∈ irregular, e.1.toList.all isAscii = true ∧
        (capitalizeFirst e.1.toList).all isAscii = true := by
      decide +kernel
    rcases withCaseOf_cases w e.1 with hcase | hcase
    · rw [hcase]
      exact List.all_eq_true.1 (hforms e he).2
    · rw [hcase]
      exact List.all_eq_true.1 (hforms e he).1
  | consonant hv =>
    exact List.forall_mem_append.2 ⟨fun c hc => h c (hv.subset hc),
      Check.forall_mem_of_all (by decide)⟩
  | sibilant hv | plain hv => exact fun c hc => h c (hv.subset hc)

theorem isAscii_of_mem_singularChars {s : List Char} (h : ∀ c ∈ s, isAscii c = true) :
    ∀ c ∈ singularChars s, isAscii c = true := by
  unfold singularChars
  rcases onLastSegment_cases singularWord s with hsingular | ⟨a, b, rfl, hsingular⟩
  · rw [hsingular]
    exact isAscii_of_mem_singularWord h
  · rw [hsingular]
    rw [List.forall_mem_append, List.forall_mem_cons] at h ⊢
    exact ⟨h.1, h.2.1, isAscii_of_mem_singularWord h.2.2⟩

end Inflection

open Text ModuleText

theorem toList_pluralize (name : String) :
    (pluralize name).toList = Inflection.pluralChars name.toList := String.toList_ofList

namespace Naming

variable {n : Naming} {table column : String} {op : Operation} {kind : RelationKind} {A : Alphabet}

theorem head?_pascal_append (s t : String) :
    (Casing.pascal.apply s ++ Casing.pascal.apply t).toList.head? =
      (leading (s.toList ++ t.toList)).bind fun c => (upperChar c).head? := by
  have hparts : (s ++ "_" ++ t).toList = s.toList ++ '_' :: t.toList := by simp
  rw [← Casing.pascal_append, Casing.apply, String.toList_ofList, head?_pascal, hparts,
    leading_append_low]

theorem word_letters (op : Operation) : (Casing.pascal.apply op.word).toList ≠ [] ∧
    ∀ c ∈ (Casing.pascal.apply op.word).toList, c.isAlpha = true := by
  cases op <;> exact ⟨by decide, Check.forall_mem_of_all (by decide)⟩

theorem isIdentifier_tableSchema (h : n.objectCasing = .pascal) :
    A.IsIdentifier (n.tableSchema op table kind).toList ↔
      A.Spells (Casing.pascal.apply table).toList := by
  obtain ⟨hne, hop⟩ := word_letters op
  have hkind : (Casing.pascal.apply kind.word).toList.all Char.isAlpha = true := by
    cases kind <;> decide
  have hschema : A.Spells "Schema".toList :=
    Alphabet.spells_of_isAlpha (Check.forall_mem_of_all (by decide))
  rw [tableSchema_pascal h, String.toList_append, String.toList_append, List.append_assoc,
    Alphabet.isIdentifier_append hne hop, String.toList_append, Alphabet.spells_append,
    Alphabet.spells_append, and_iff_left hschema,
    and_iff_left (Alphabet.spells_of_isAlpha (List.all_eq_true.1 hkind))]

theorem isIdentifier_recordType (h : n.objectCasing = .pascal) :
    A.IsIdentifier (n.recordType op table).toList ↔
      A.Spells (Casing.pascal.apply (n.entity table)).toList := by
  obtain ⟨hne, hop⟩ := word_letters op
  rw [recordType_pascal h, String.toList_append, Alphabet.isIdentifier_append hne hop]

theorem isIdentifier_enumType (h : n.objectCasing = .pascal) :
    A.IsIdentifier (n.enumType table column).toList ↔
      (∃ c, leading ((n.entity table).toList ++ column.toList) = some c ∧ A.Opens c) ∧
        A.Spells (Casing.pascal.apply (n.entity table)).toList ∧
        A.Spells (Casing.pascal.apply column).toList := by
  rw [enumType_pascal h, Alphabet.isIdentifier_iff,
    (Alphabet.starts_iff (head?_pascal_append ..)).1, String.toList_append, Alphabet.spells_append]

theorem isIdentifier_enumSchema (h : n.objectCasing = .pascal) :
    A.IsIdentifier (n.enumSchema table column).toList ↔
      (∀ c, leading ((n.entity table).toList ++ column.toList) = some c → A.Opens c) ∧
        A.Spells (Casing.pascal.apply (n.entity table)).toList ∧
        A.Spells (Casing.pascal.apply column).toList := by
  rw [enumSchema_pascal h, String.toList_append,
    Alphabet.isIdentifier_append_letters (by decide) (Check.forall_mem_of_all (by decide)),
    (Alphabet.starts_iff (head?_pascal_append ..)).2, String.toList_append, Alphabet.spells_append]

theorem isIdentifier_enumConstant :
    A.IsIdentifier (n.enumConstant table column).toList ↔
      (∃ c, leading ((n.entity table).toList ++ (pluralize column).toList) = some c ∧
        A.Opens c) ∧
        A.Spells (shouting (n.entity table).toList) ∧ A.Spells (shouting column.toList) := by
  have hparts : (n.entity table ++ "_" ++ pluralize column).toList =
      (n.entity table).toList ++ '_' :: (pluralize column).toList := by simp
  have hspells : A.Spells (shouting ((n.entity table).toList ++ '_' :: (pluralize column).toList)) ↔
      A.Spells (shouting (n.entity table).toList) ∧ A.Spells (shouting column.toList) := by
    rw [(Inflection.reended_pluralChars column.toList).spells_shouting_iff, ← toList_pluralize]
    have hlow : isAlphanumeric '_' = true → A.Spells (upperChar '_') := fun h =>
      absurd h (by decide)
    simp only [Alphabet.spells_shouting, List.forall_mem_append, List.forall_mem_cons,
      and_iff_right hlow]
  rw [enumConstant, String.toList_ofList, hparts, Alphabet.isIdentifier_iff,
    (Alphabet.starts_iff (head?_shouting _)).1, leading_append_low, hspells]

end Naming

namespace ModelBuilder

variable (b : ModelBuilder) (t : Table) (A : Alphabet)

/-- What the names that a column gives start with. -/
def leadingOf (c : Column) : Option Char :=
  leading ((b.naming.entity t.name).toList ++ c.name.toList)

/-- Tables whose names can be written in the letters and digits of an alphabet, and none of which
starts with a digit where an identifier starts with it. -/
structure NamesSpelled : Prop where
  table : A.Spells (Casing.pascal.apply t.name).toList
  entity : A.Spells (Casing.pascal.apply (b.naming.entity t.name)).toList
  columns : ∀ c ∈ b.importedColumns t ++ t.enumColumns,
    A.Spells (Casing.pascal.apply c.name).toList ∧ ∀ d, b.leadingOf t c = some d → A.Opens d
  constants : ∀ c ∈ t.enumColumns, b.leadingOf t c ≠ none ∧
    A.Spells (shouting (b.naming.entity t.name).toList) ∧ A.Spells (shouting c.name.toList)

variable {b t A}

theorem namesSpelled_iff (h : b.naming.objectCasing = .pascal) (p : DialectProfile) :
    b.NamesSpelled t A ↔
      ∀ name ∈ (b.plainModel t).valueNames p ++ (b.plainModel t).typeNames p,
        A.IsIdentifier name.toList := by
  have hselect : .select ∈ t.operations := List.mem_cons_self
  have hvalues (name : String) := (b.valueNames_plainModel t p).mem_iff (a := name)
  simp only [List.forall_mem_append, hvalues, typeNames_plainModel, List.forall_mem_map,
    Naming.isIdentifier_tableSchema h, Naming.isIdentifier_recordType h,
    Naming.isIdentifier_enumSchema h, Naming.isIdentifier_enumType h,
    Naming.isIdentifier_enumConstant]
  constructor
  · rintro ⟨htable, hentity, hcolumns, hconstants⟩
    have hopens {c : Column} (hc : c ∈ t.enumColumns) :
        ∃ d, b.leadingOf t c = some d ∧ A.Opens d := by
      obtain ⟨d, hd⟩ := Option.ne_none_iff_exists'.1 (hconstants c hc).1
      exact ⟨d, hd, (hcolumns c (List.mem_append_right _ hc)).2 d hd⟩
    have hschema {c : Column} (hc : c ∈ b.importedColumns t ++ t.enumColumns) :=
      (⟨(hcolumns c hc).2, hentity, (hcolumns c hc).1⟩ : _ ∧ _ ∧ _)
    refine ⟨⟨⟨⟨fun c hc => hschema (List.mem_append_left _ hc), fun c hc =>
      hschema (List.mem_append_right _ hc)⟩, fun c hc => ⟨?_, (hconstants c hc).2⟩⟩,
      fun _ _ => htable⟩, fun c hc => ⟨hopens hc, ?_⟩, fun _ _ => hentity⟩
    · rw [toList_pluralize]
      exact ((Inflection.reended_pluralChars _).append_left _).opens (hopens hc)
    · exact ⟨hentity, (hcolumns c (List.mem_append_right _ hc)).1⟩
  · rintro ⟨⟨⟨⟨himports, henums⟩, hconstants⟩, htables⟩, htypes, hrecords⟩
    have hschemas := List.forall_mem_append.2 ⟨himports, henums⟩
    refine ⟨htables _ hselect, hrecords _ hselect, fun c hc => ?_, fun c hc => ⟨?_, ?_⟩⟩
    · exact ⟨(hschemas c hc).2.2, (hschemas c hc).1⟩
    · obtain ⟨d, hd, -⟩ := (htypes c hc).1
      exact Option.ne_none_iff_exists'.2 ⟨d, hd⟩
    · exact (hconstants c hc).2

variable (b t) in
/-- Where columns are named, no digit comes first, and where values are listed, something does. -/
structure StartsWithLetters : Prop where
  columns : ∀ c ∈ b.importedColumns t ++ t.enumColumns, ∀ d, b.leadingOf t c = some d →
    d.isDigit = false
  constants : ∀ c ∈ t.enumColumns, b.leadingOf t c ≠ none

theorem namesSpelled_ascii_iff (htable : ∀ d ∈ t.name.toList, isAscii d = true)
    (hnames : ∀ c ∈ t.columns, ∀ d ∈ c.name.toList, isAscii d = true) :
    b.NamesSpelled t A ↔ b.StartsWithLetters t := by
  have hentity : ∀ d ∈ (b.naming.entity t.name).toList, isAscii d = true := by
    unfold Naming.entity singularize
    split
    · rw [String.toList_ofList]
      exact Inflection.isAscii_of_mem_singularChars htable
    · exact htable
  have himported {c : Column} (hc : c ∈ b.importedColumns t ++ t.enumColumns) : c ∈ t.columns := by
    rcases List.mem_append.1 hc with hc | hc
    · exact (List.mem_filter.1 hc).1
    · exact (List.mem_filter.1 hc).1
  have hopens {c : Column} (hc : c ∈ b.importedColumns t ++ t.enumColumns) {d : Char}
      (hd : b.leadingOf t c = some d) : A.Opens d ↔ d.isDigit = false := by
    refine Alphabet.opens_ascii ?_ (List.find?_some hd)
    rcases List.mem_append.1 (List.mem_of_find?_eq_some hd) with hd | hd
    · exact hentity d hd
    · exact hnames c (himported hc) d hd
  have hpascal {name : String} (h : ∀ d ∈ name.toList, isAscii d = true) :
      A.Spells (Casing.pascal.apply name).toList ∧ A.Spells (shouting name.toList) := by
    rw [Casing.apply, String.toList_ofList]
    exact Alphabet.spells_ascii h
  constructor
  · rintro ⟨-, -, hcolumns, hconstants⟩
    exact ⟨fun c hc d hd => (hopens hc hd).1 ((hcolumns c hc).2 d hd),
      fun c hc => (hconstants c hc).1⟩
  · rintro ⟨hcolumns, hconstants⟩
    refine ⟨(hpascal htable).1, (hpascal hentity).1, fun c hc => ?_, fun c hc => ?_⟩
    · exact ⟨(hpascal (hnames c (himported hc))).1,
        fun d hd => (hopens hc hd).2 (hcolumns c hc d hd)⟩
    · have hcolumn := himported (List.mem_append_right (b.importedColumns t) hc)
      exact ⟨hconstants c hc, (hpascal hentity).2, (hpascal (hnames c hcolumn)).2⟩

/-- Building the model of a table succeeds, and the module written for it declares and imports
identifiers alone exactly if the names of the table and its columns can be spelled so. For names in
ASCII it is enough that the first letter or digit of the entity and a column joined is a letter. -/
theorem build_identifiers_iff (h : b.naming.objectCasing = .pascal) (A : Alphabet) (t : Table) :
    ∃ m, (b.build {} t).outcome = .ok m ∧
      (m.emit b.profile).content = preamble m ++ b.profile.importLine ++ "\n" ++
        statementText (statements b.profile m) ∧
      ((∀ name ∈ m.valueNames b.profile ++ m.typeNames b.profile, A.IsIdentifier name.toList) ↔
        b.NamesSpelled t A) ∧
      ((∀ d ∈ t.name.toList, isAscii d = true) →
        (∀ c ∈ t.columns, ∀ d ∈ c.name.toList, isAscii d = true) →
          (b.NamesSpelled t A ↔ b.StartsWithLetters t)) :=
  ⟨b.plainModel t, b.build_outcome t, content_eq b.profile _, (namesSpelled_iff h b.profile).symm,
    namesSpelled_ascii_iff⟩

theorem build_identifiers_users :
    let b : ModelBuilder := ⟨{}, Dialect.zod4.profile, {}, some "./json"⟩
    let raw (name dataType : String) (labels : List String) : RawColumn :=
      ⟨name, "users", .table, "public", dataType, false, none, none, none, [], labels, 1⟩
    let t : Table := ⟨"public", "users", .table,
      [(raw "2nd_meta" "jsonb" []).describe, (raw "status" "user_status" ["new"]).describe]⟩
    ∃ m, (b.build {} t).outcome = .ok m ∧
      ∀ name ∈ m.valueNames b.profile ++ m.typeNames b.profile,
        Alphabet.ascii.IsIdentifier name.toList := by
  intro b raw t
  have hletters : (b.importedColumns t ++ t.enumColumns).all (fun c =>
      (b.leadingOf t c).all fun d => !d.isDigit) = true := by
    decide +kernel
  have hstarts : b.StartsWithLetters t := by
    refine ⟨fun c hc d hd => ?_, by decide +kernel⟩
    have hall := List.all_eq_true.1 hletters c hc
    simpa [hd] using hall
  have hnames : t.columns.all (fun c => c.name.toList.all isAscii) = true := by decide
  obtain ⟨m, hbuilt, -, hidentifiers, hascii⟩ := build_identifiers_iff (b := b) rfl .ascii t
  refine ⟨m, hbuilt, hidentifiers.2 ((hascii (Check.forall_mem_of_all (by decide)) ?_).2 hstarts)⟩
  exact fun c hc => List.all_eq_true.1 (List.all_eq_true.1 hnames c hc)

/-- A table that is called by a number gives names that start with a digit in every alphabet. -/
theorem build_identifiers_digit :
    let b : ModelBuilder := ⟨{}, Dialect.zod4.profile, {}, none⟩
    let raw (name dataType : String) (labels : List String) : RawColumn :=
      ⟨name, "2fa", .table, "public", dataType, false, none, none, none, [], labels, 1⟩
    let t : Table := ⟨"public", "2fa", .table, [(raw "status" "fa_status" ["on"]).describe]⟩
    ∃ m, (b.build {} t).outcome = .ok m ∧ "2FA_STATUSES" ∈ m.valueNames b.profile ∧
      "2faStatusSchema" ∈ m.valueNames b.profile ∧ "2faStatus" ∈ m.typeNames b.profile ∧
      ∀ A : Alphabet, ¬A.IsIdentifier "2FA_STATUSES".toList := by
  intro b raw t
  suffices hnames : "2FA_STATUSES" ∈ (b.plainModel t).valueNames b.profile ∧
      "2faStatusSchema" ∈ (b.plainModel t).valueNames b.profile ∧
      "2faStatus" ∈ (b.plainModel t).typeNames b.profile from by
    refine ⟨b.plainModel t, b.build_outcome t, hnames.1, hnames.2.1, hnames.2.2, fun A h => ?_⟩
    have hdigit : "2FA_STATUSES".toList = '2' :: "FA_STATUSES".toList := by decide
    obtain ⟨c, r, heq, hstart, -⟩ := h
    obtain ⟨rfl, -⟩ := List.cons.inj (hdigit.symm.trans heq)
    rw [Alphabet.isStart, A.letter_ascii '2' (by decide)] at hstart
    exact absurd hstart (by decide)
  decide +kernel

end ModelBuilder

end ZodCatalog
