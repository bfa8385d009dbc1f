import Mathlib.Data.List.Induction
import Mathlib.Data.List.Perm.Basic
import Mathlib.Data.Prod.Lex
import Mathlib.Data.String.Basic
import ZodCatalog.Catalog.Assembly

/-! The tables of an assembled schema part its rows. Adding a column changes the group of its
relation alone; a whole list of rows leaves one group for each relation, with the described rows
of that relation in their order. -/

namespace ZodCatalog

namespace Assembly

/-- Keys are ordered by schema and then by table. -/
def Key.rank (k : Key) : String ×ₗ String := toLex (k.schema, k.table)

theorem Key.before_iff {k l : Key} : k.before l = true ↔ k.rank < l.rank := by
  simp [before, rank, Prod.Lex.toLex_lt_toLex]

theorem Key.rank_inj {k l : Key} (h : k.rank = l.rank) : k = l := by
  obtain ⟨schema, table⟩ := k
  obtain ⟨hschema, htable⟩ := Prod.mk.inj (toLex_inj.1 h)
  exact Key.mk.injEq .. ▸ ⟨hschema, htable⟩

/-- The keys of the groups increase, so that no relation has two of them. -/
def Ordered (groups : List Group) : Prop := groups.Pairwise fun g h => g.key.rank < h.key.rank

/-- The group of a relation. -/
def group? (key : Key) (groups : List Group) : Option Group := groups.find? (·.key = key)

/-- A group, or the start of one, with one more column. -/
def Group.grow (key : Key) (kind : RelationKind) (column : Column) : Option Group → Group
  | none => ⟨key, kind, [column]⟩
  | some g => { g with columns := g.columns ++ [column] }

section AddColumn

variable {key k : Key} {kind : RelationKind} {column : Column} {groups : List Group}

theorem group?_cons (g : Group) (gs : List Group) :
    group? k (g :: gs) = if g.key = k then some g else group? k gs := by
  by_cases h : g.key = k <;> simp [group?, h]

theorem group?_eq_none_iff : group? k groups = none ↔ ∀ g ∈ groups, g.key ≠ k := by
  simp [group?]

/-- The groups in front of which a new one is put are those of other relations. -/
theorem Ordered.group?_eq_none {g : Group} {gs : List Group} (h : Ordered (g :: gs))
    (hkey : key.rank < g.key.rank) : group? key (g :: gs) = none := by
  rw [group?_eq_none_iff]
  rintro d hd rfl
  rcases List.mem_cons.1 hd with rfl | hd
  · exact lt_irrefl _ hkey
  · exact lt_asymm hkey ((List.pairwise_cons.1 h).1 d hd)

theorem group?_addColumn (h : Ordered groups) (k : Key) :
    group? k (addColumn key kind column groups) =
      if key = k then some (Group.grow key kind column (group? k groups)) else group? k groups := by
  induction groups with
  | nil => simp [addColumn, group?, Group.grow]
  | cons g gs ih =>
    unfold addColumn
    split
    · rename_i hg
      subst hg
      rw [group?_cons, group?_cons]
      split
      · rfl
      · rfl
    · rename_i hg
      split
      · rename_i hbefore
        -- Put in front of a later key, the group is new: no group further on can have its key.
        have hnone := h.group?_eq_none (Key.before_iff.1 hbefore)
        rw [group?_cons]
        split
        · rename_i hk
          rw [← hk, hnone]
          rfl
        · rfl
      · rw [group?_cons, group?_cons, ih (List.pairwise_cons.1 h).2]
        by_cases hk : g.key = k
        · subst hk
          simp [hg]
        · simp [hk]

/-- A column brings no other relation than its own. -/
theorem key_of_mem_addColumn {g : Group} (h : g ∈ addColumn key kind column groups) :
    g.key = key ∨ ∃ d ∈ groups, d.key = g.key := by
  induction groups with
  | nil =>
    rw [addColumn, List.mem_singleton] at h
    exact .inl (h ▸ rfl)
  | cons d ds ih =>
    unfold addColumn at h
    split at h
    · rcases List.mem_cons.1 h with rfl | h
      · exact .inr ⟨d, List.mem_cons_self, rfl⟩
      · exact .inr ⟨g, List.mem_cons_of_mem _ h, rfl⟩
    · split at h
      · rcases List.mem_cons.1 h with rfl | h
        · exact .inl rfl
        · exact .inr ⟨g, h, rfl⟩
      · rcases List.mem_cons.1 h with rfl | h
        · exact .inr ⟨g, List.mem_cons_self, rfl⟩
        · exact (ih h).imp id fun ⟨e, he, hkey⟩ => ⟨e, List.mem_cons_of_mem _ he, hkey⟩

theorem Ordered.addColumn (h : Ordered groups) :
    Ordered (Assembly.addColumn key kind column groups) := by
  induction groups with
  | nil => exact List.pairwise_singleton ..
  | cons g gs ih =>
    obtain ⟨hg, hgs⟩ := List.pairwise_cons.1 h
    unfold Assembly.addColumn
    split
    · exact List.pairwise_cons.2 ⟨hg, hgs⟩
    · rename_i hne
      split
      · rename_i hbefore
        have hkey := Key.before_iff.1 hbefore
        refine List.pairwise_cons.2 ⟨fun d hd => ?_, h⟩
        rcases List.mem_cons.1 hd with rfl | hd
        · exact hkey
        · exact hkey.trans (hg d hd)
      · rename_i hbefore
        -- Further on the added key may be met, or one of those that came after `g` before.
        have hkey : g.key.rank < key.rank :=
          (not_lt.1 (mt Key.before_iff.2 hbefore)).lt_of_ne fun hrank =>
            hne (Key.rank_inj hrank).symm
        refine List.pairwise_cons.2 ⟨fun d hd => ?_, ih hgs⟩
        rcases key_of_mem_addColumn hd with hd | ⟨e, he, hd⟩
        · rw [hd]
          exact hkey
        · rw [← hd]
          exact hg e he

theorem addColumn_columns_perm (groups : List Group) :
    ((addColumn key kind column groups).flatMap Group.columns).Perm
      (groups.flatMap Group.columns ++ [column]) := by
  induction groups with
  | nil => exact .refl _
  | cons g gs ih =>
    unfold addColumn
    split
    · simp only [List.flatMap_cons, List.append_assoc]
      exact (List.perm_append_comm).append_left _
    · split
      · exact (List.perm_append_singleton column _).symm
      · simp only [List.flatMap_cons, List.append_assoc]
        exact ih.append_left _

end AddColumn

section Collect

/-- The groups of rows with their columns, each added in turn. -/
def collect (entries : List (RawColumn × Column)) (groups : List Group) : List Group :=
  entries.foldl (fun gs e => addColumn (RawColumn.key e.1) e.1.tableKind e.2 gs) groups

/-- The rows of one relation in their order. -/
def rowsOf (key : Key) (entries : List (RawColumn × Column)) : List (RawColumn × Column) :=
  entries.filter (RawColumn.key ·.1 = key)

/-- The group that the rows of a relation make; its kind is that of the first. -/
def Group.ofEntries? (key : Key) : List (RawColumn × Column) → Option Group
  | [] => none
  | e :: es => some ⟨key, e.1.tableKind, e.2 :: es.map Prod.snd⟩

theorem Group.ofEntries?_eq_none_iff {key : Key} {entries : List (RawColumn × Column)} :
    Group.ofEntries? key entries = none ↔ entries = [] := by
  cases entries <;> simp [ofEntries?]

theorem Group.ofEntries?_concat (key : Key) (entries : List (RawColumn × Column))
    (e : RawColumn × Column) :
    Group.ofEntries? key (entries ++ [e]) =
      some (Group.grow key e.1.tableKind e.2 (Group.ofEntries? key entries)) := by
  cases entries with
  | nil => rfl
  | cons d ds => simp [ofEntries?, grow]

theorem collect_concat (entries : List (RawColumn × Column)) (e : RawColumn × Column)
    (groups : List Group) :
    collect (entries ++ [e]) groups =
      addColumn (RawColumn.key e.1) e.1.tableKind e.2 (collect entries groups) := by
  simp [collect]

variable (entries : List (RawColumn × Column))

theorem ordered_collect : Ordered (collect entries []) := by
  induction entries using List.reverseRecOn with
  | nil => exact .nil
  | append_singleton es e ih =>
    rw [collect_concat]
    exact ih.addColumn

/-- Each relation has the group of its own rows. -/
theorem group?_collect (key : Key) :
    group? key (collect entries []) = Group.ofEntries? key (rowsOf key entries) := by
  induction entries using List.reverseRecOn with
  | nil => rfl
  | append_singleton es e ih =>
    have hrows : rowsOf key (es ++ [e]) =
        rowsOf key es ++ if RawColumn.key e.1 = key then [e] else [] := by
      simp [rowsOf, List.filter_singleton]
    rw [collect_concat, group?_addColumn (ordered_collect es), ih, hrows]
    split
    · rename_i hkey
      rw [Group.ofEntries?_concat, hkey]
    · rw [List.append_nil]

theorem collect_columns_perm :
    ((collect entries []).flatMap Group.columns).Perm (entries.map Prod.snd) := by
  induction entries using List.reverseRecOn with
  | nil => exact .refl _
  | append_singleton es e ih =>
    rw [collect_concat, List.map_append]
    exact (addColumn_columns_perm _).trans (ih.append_right _)

/-- The groups found by their keys are the groups there are. -/
theorem Ordered.group?_eq_some {groups : List Group} (h : Ordered groups) {g : Group}
    (hg : g ∈ groups) : group? g.key groups = some g := by
  induction groups with
  | nil => contradiction
  | cons d ds ih =>
    obtain ⟨hd, hds⟩ := List.pairwise_cons.1 h
    rw [group?_cons]
    rcases List.mem_cons.1 hg with rfl | hg
    · exact if_pos rfl
    · have hne : d.key ≠ g.key := fun heq => (hd g hg).ne (congrArg Key.rank heq)
      rw [if_neg hne, ih hds hg]

theorem mem_collect_iff {g : Group} :
    g ∈ collect entries [] ↔ Group.ofEntries? g.key (rowsOf g.key entries) = some g := by
  rw [← group?_collect]
  exact ⟨(ordered_collect entries).group?_eq_some, fun h => List.mem_of_find?_eq_some h⟩

end Collect

section Hookless

/-- Rows as they are described, without a hook. -/
def described (rows : List RawColumn) : List (RawColumn × Column) :=
  rows.map fun raw => (raw, raw.describe)

theorem groupRows_outcome (groups : List Group) (rows : List RawColumn) :
    (groupRows {} groups rows).outcome = .ok (collect (described rows) groups) := by
  induction rows generalizing groups with
  | nil => rfl
  | cons raw rows ih =>
    have hcall : (Traced.call (.column raw.describe)
        ((Except.ok raw.describe).mapError Error.hook) :
          Traced CatalogCall Error Column).outcome = .ok raw.describe := rfl
    rw [groupRows]
    exact (congrArg Traced.outcome (Traced.bind_of_ok hcall _)).trans (ih _)

theorem groupTables_outcome (groups : List Group) :
    (groupTables {} groups).outcome = .ok (groups.map Group.table) := by
  induction groups with
  | nil => rfl
  | cons g gs ih =>
    have hcall : (Traced.call (.table g.table) ((Except.ok g.table).mapError Error.hook) :
        Traced CatalogCall Error Table).outcome = .ok g.table := rfl
    rw [groupTables]
    refine (congrArg Traced.outcome (Traced.bind_of_ok hcall _)).trans ?_
    exact congrArg Traced.outcome (Traced.bind_of_ok ih _)

/-- The tables of rows, without a hook. -/
def tablesOf (rows : List RawColumn) : List Table :=
  stableSort Table.before ((collect (described rows) []).map Group.table)

theorem assembleSchema_outcome (name : String) (rows : List RawColumn) (filter : TableFilter) :
    (assembleSchema name rows filter {}).outcome =
      .ok ⟨name, tablesOf (rows.filter fun raw => filter.allows raw.tableName)⟩ := by
  rw [assembleSchema]
  refine (congrArg Traced.outcome (Traced.bind_of_ok (groupRows_outcome _ _) _)).trans ?_
  exact congrArg Traced.outcome (Traced.bind_of_ok (groupTables_outcome _) _)

end Hookless

end Assembly

open Assembly

def Table.key (t : Table) : Key := ⟨t.schemaName, t.name⟩

/-- Tables that group rows with a column for each: every relation has one table, in the order of
the relations, which holds the columns of its rows by position, ties as the rows have them, and is
of the kind that its first row states. -/
structure Grouping (entries : List (RawColumn × Column)) (tables : List Table) : Prop where
  keys : ∀ key, key ∈ tables.map Table.key ↔ ∃ e ∈ entries, RawColumn.key e.1 = key
  ascending : tables.Pairwise fun s t => s.key.rank < t.key.rank
  columns : ∀ t ∈ tables, t.columns.Perm ((rowsOf t.key entries).map Prod.snd)
  positions : ∀ t ∈ tables, t.columns.Pairwise fun c d => c.ordinalPosition ≤ d.ordinalPosition
  ties : ∀ t ∈ tables, ∀ p, t.columns.filter (·.ordinalPosition = p) =
    ((rowsOf t.key entries).map Prod.snd).filter (·.ordinalPosition = p)
  kind : ∀ t ∈ tables, (rowsOf t.key entries).head?.map (·.1.tableKind) = some t.kind

theorem collect_grouping (entries : List (RawColumn × Column)) :
    Grouping entries ((collect entries []).map Group.table) := by
  have hgroup : ∀ t ∈ (collect entries []).map Group.table, ∃ g : Group, g.table = t ∧
      Group.ofEntries? t.key (rowsOf t.key entries) = some g := by
    intro t ht
    obtain ⟨g, hg, rfl⟩ := List.mem_map.1 ht
    exact ⟨g, rfl, (mem_collect_iff entries).1 hg⟩
  -- A group has the columns of the rows that make it, and the kind of the first of them.
  have hmade {key : Key} {g : Group} (h : Group.ofEntries? key (rowsOf key entries) = some g) :
      g.columns = (rowsOf key entries).map Prod.snd ∧
        (rowsOf key entries).head?.map (·.1.tableKind) = some g.kind := by
    cases hrows : rowsOf key entries with
    | nil =>
      rw [hrows] at h
      contradiction
    | cons e es =>
      rw [hrows] at h
      rw [← Option.some.inj h]
      exact ⟨rfl, rfl⟩
  refine ⟨fun key => ?_, List.pairwise_map.2 (ordered_collect entries), fun t ht => ?_,
    fun t ht => ?_, fun t ht p => ?_, fun t ht => ?_⟩
  · have hnone : group? key (collect entries []) = none ↔
        ∀ e ∈ entries, RawColumn.key e.1 ≠ key := by
      rw [group?_collect, Group.ofEntries?_eq_none_iff, rowsOf, List.filter_eq_nil_iff]
      simp only [decide_eq_true_eq, ne_eq]
    have hkeys : ((collect entries []).map Group.table).map Table.key =
        (collect entries []).map Group.key := List.map_map ..
    rw [hkeys, List.mem_map]
    rw [group?_eq_none_iff] at hnone
    simpa using not_congr hnone
  · obtain ⟨g, rfl, hg⟩ := hgroup t ht
    rw [← (hmade hg).1]
    exact stableSort_perm _
  · obtain ⟨g, rfl, -⟩ := hgroup t ht
    refine (stableSort_pairwise (fun c d => ?_) (fun c d e => ?_) _).imp fun h => ?_
    · simpa using le_total _ _
    · simpa using le_trans
    · exact Int16.le_iff_toInt_le.2 (by simpa using h)
  · obtain ⟨g, rfl, hg⟩ := hgroup t ht
    rw [← (hmade hg).1]
    refine filter_stableSort (fun c d hc hd => ?_) _
    rw [decide_eq_true_eq] at hc hd ⊢
    rw [hc, hd]
  · obtain ⟨g, rfl, hg⟩ := hgroup t ht
    exact (hmade hg).2

/-- Tables are ordered by kind, then by name, then by schema. -/
def Table.rank (t : Table) : ℕ ×ₗ String ×ₗ String :=
  toLex (t.kind.rank, toLex (t.name, t.schemaName))

theorem Table.before_iff {s t : Table} :
    s.before t = true ↔ toLex (s.kind.rank, s.name) ≤ toLex (t.kind.rank, t.name) := by
  rw [before, Prod.Lex.toLex_le_toLex, ← not_lt (a := t.name)]
  simp only [Bool.or_eq_true, Bool.and_eq_true, decide_eq_true_eq, beq_iff_eq, Bool.not_eq_true',
    decide_eq_false_iff_not]

theorem Table.before_total (s t : Table) : s.before t = true ∨ t.before s = true := by
  rw [before_iff, before_iff]
  exact le_total _ _

theorem Table.before_trans (r s t : Table) (hrs : r.before s = true) (hst : s.before t = true) :
    r.before t = true := by
  rw [before_iff] at hrs hst ⊢
  exact hrs.trans hst

/-- The rows of one relation in their order. -/
def rowsOfRelation (key : Key) (rows : List RawColumn) : List RawColumn :=
  rows.filter (RawColumn.key · = key)

/-- Tables that part rows: each relation has one, which holds the descriptions of its rows by
position, ties as the rows have them, and is of the kind that its first row states. -/
structure RowPartition (rows : List RawColumn) (tables : List Table) : Prop where
  keys : ∀ key, key ∈ tables.map Table.key ↔ ∃ raw ∈ rows, RawColumn.key raw = key
  once : (tables.map Table.key).Nodup
  ordered : tables.Pairwise fun s t => s.rank < t.rank
  columns : ∀ t ∈ tables, t.columns.Perm ((rowsOfRelation t.key rows).map RawColumn.describe)
  positions : ∀ t ∈ tables, t.columns.Pairwise fun c d => c.ordinalPosition ≤ d.ordinalPosition
  ties : ∀ t ∈ tables, ∀ p, t.columns.filter (·.ordinalPosition = p) =
    ((rowsOfRelation t.key rows).map RawColumn.describe).filter (·.ordinalPosition = p)
  kind : ∀ t ∈ tables, (rowsOfRelation t.key rows).head?.map (·.tableKind) = some t.kind
  complete : (tables.flatMap Table.columns).Perm (rows.map RawColumn.describe)

section Partition

variable {rows : List RawColumn}

theorem rowsOf_described (key : Key) (rows : List RawColumn) :
    rowsOf key (described rows) = described (rowsOfRelation key rows) := by
  rw [rowsOf, described, List.filter_map]
  rfl

theorem tablesOf_perm :
    (tablesOf rows).Perm ((collect (described rows) []).map Group.table) := stableSort_perm _

theorem tablesOf_ordered : (tablesOf rows).Pairwise fun s t => s.rank < t.rank := by
  have hkeys : ((collect (described rows) []).map Group.table).Pairwise
      fun s t => s.key.rank < t.key.rank := List.pairwise_map.2 (ordered_collect (described rows))
  refine (stableSort_pairwise_tied Table.before_total Table.before_trans hkeys).imp
    fun {s t} h => ?_
  rw [Table.before_iff, Table.before_iff] at h
  obtain ⟨hle, htied⟩ := h
  rw [Table.rank, Table.rank, Prod.Lex.toLex_lt_toLex, Prod.Lex.toLex_lt_toLex]
  rcases hle.lt_or_eq with hlt | heq
  · exact (Prod.Lex.toLex_lt_toLex.1 hlt).imp id fun h => ⟨h.1, .inl h.2⟩
  · -- Tables of one kind and name come from groups of different schemas.
    obtain ⟨hkind, hname⟩ := Prod.mk.inj (toLex_inj.1 heq)
    have hkey := Prod.Lex.toLex_lt_toLex.1 (htied heq.ge)
    have hschema : s.schemaName < t.schemaName :=
      hkey.resolve_right fun h => h.2.ne hname
    exact .inr ⟨hkind, .inr ⟨hname, hschema⟩⟩

theorem tablesOf_rowPartition (rows : List RawColumn) : RowPartition rows (tablesOf rows) := by
  have hgroups := collect_grouping (described rows)
  have hmem {t : Table} (ht : t ∈ tablesOf rows) :
      t ∈ (collect (described rows) []).map Group.table := tablesOf_perm.mem_iff.1 ht
  have hcolumns (key : Key) : (rowsOf key (described rows)).map Prod.snd =
      (rowsOfRelation key rows).map RawColumn.describe := by
    rw [rowsOf_described, described, List.map_map]
    rfl
  refine ⟨fun key => ?_, ?_, tablesOf_ordered, fun t ht => ?_,
    fun t ht => hgroups.positions t (hmem ht), fun t ht p => ?_, fun t ht => ?_, ?_⟩
  · rw [(tablesOf_perm.map Table.key).mem_iff, hgroups.keys]
    simp [described]
  · rw [(tablesOf_perm.map Table.key).nodup_iff, List.nodup_iff_pairwise_ne, List.pairwise_map]
    exact hgroups.ascending.imp fun h heq => h.ne (congrArg Key.rank heq)
  · rw [← hcolumns]
    exact hgroups.columns t (hmem ht)
  · rw [← hcolumns]
    exact hgroups.ties t (hmem ht) p
  · have hkind := hgroups.kind t (hmem ht)
    rw [rowsOf_described, described, List.head?_map, Option.map_map] at hkind
    exact hkind
  · have hrows : (described rows).map Prod.snd = rows.map RawColumn.describe := by
      simp [described, Function.comp_def]
    have htables : ((collect (described rows) []).map Group.table).flatMap Table.columns =
        (collect (described rows) []).flatMap fun g => g.table.columns := List.flatMap_map ..
    refine (tablesOf_perm.flatMap_right _).trans ?_
    rw [htables, ← hrows]
    exact (List.Perm.flatMap_left _ fun g _ => stableSort_perm _).trans (collect_columns_perm _)

/-- Assembling never fails without hooks. Its tables part the rows of the relations that the filter
allows, and no column of another relation is in them. -/
theorem assembleSchema_rowPartition (name : String) (rows : List RawColumn) (filter : TableFilter) :
    ∃ tables, (assembleSchema name rows filter {}).outcome = .ok ⟨name, tables⟩ ∧
      RowPartition (rows.filter fun raw => filter.allows raw.tableName) tables ∧
      ∀ t ∈ tables, filter.allows t.name = true ∧
        ∀ c ∈ t.columns, filter.allows c.tableName = true := by
  have hparts := tablesOf_rowPartition (rows.filter fun raw => filter.allows raw.tableName)
  refine ⟨_, assembleSchema_outcome name rows filter, hparts, fun t ht => ⟨?_, fun c hc => ?_⟩⟩
  · obtain ⟨raw, hraw, hkey⟩ := (hparts.keys t.key).1 (List.mem_map_of_mem ht)
    have hname : raw.tableName = t.name := congrArg Key.table hkey
    rw [← hname]
    exact (List.mem_filter.1 hraw).2
  · have hdescribed := hparts.complete.mem_iff.1 (List.mem_flatMap.2 ⟨t, ht, hc⟩)
    obtain ⟨raw, hraw, rfl⟩ := List.mem_map.1 hdescribed
    exact (List.mem_filter.1 hraw).2

end Partition

end ZodCatalog
