import Mathlib.Data.List.Nodup
import Mathlib.Data.List.Pairwise
import ZodCatalog.Proofs.RowPartition
import ZodCatalog.Proofs.RunOrder

/-! The order in which a catalog lists its rows. Rows determine the tables that part them, as long
as the rows of a relation agree on its kind and no two of them state one position. So any order of
the rows gives one schema, and what a run does with a schema does not depend on how it was made. -/

namespace ZodCatalog
open Assembly

/-- Rows of different relations, or of one whose kind they agree on, at different positions. -/
def RawColumn.Agrees (r r' : RawColumn) : Prop :=
  RawColumn.key r = RawColumn.key r' →
    r.tableKind = r'.tableKind ∧ r.ordinalPosition ≠ r'.ordinalPosition

instance (r r' : RawColumn) : Decidable (r.Agrees r') := inferInstanceAs (Decidable (_ → _))

instance : Std.Symm RawColumn.Agrees where
  symm _ _ h hkey := (h hkey.symm).imp Eq.symm Ne.symm

namespace RowPartition

variable {rows rows' : List RawColumn} {tables tables' : List Table} {t t' : Table}

theorem exists_head (h : RowPartition rows tables) (ht : t ∈ tables) :
    ∃ raw ∈ rows, RawColumn.key raw = t.key ∧ raw.tableKind = t.kind := by
  have hkind := h.kind t ht
  rw [Option.map_eq_some_iff] at hkind
  obtain ⟨raw, hhead, hkind⟩ := hkind
  obtain ⟨hraw, hkey⟩ := List.mem_filter.1 (List.mem_of_head? hhead)
  exact ⟨raw, hraw, of_decide_eq_true hkey, hkind⟩

/-- Columns of one table that are at one position are one column. -/
theorem eq_of_position (h : RowPartition rows tables) (hrows : rows.Pairwise RawColumn.Agrees)
    (ht : t ∈ tables) {c d : Column} (hc : c ∈ t.columns) (hd : d ∈ t.columns)
    (hposition : c.ordinalPosition = d.ordinalPosition) : c = d := by
  have hrelation {e : Column} (he : e ∈ t.columns) :
      ∃ raw ∈ rows, RawColumn.key raw = t.key ∧ raw.describe = e := by
    obtain ⟨raw, hraw, hdescribe⟩ := List.mem_map.1 ((h.columns t ht).mem_iff.1 he)
    obtain ⟨hraw, hkey⟩ := List.mem_filter.1 hraw
    exact ⟨raw, hraw, of_decide_eq_true hkey, hdescribe⟩
  obtain ⟨raw, hraw, hkey, rfl⟩ := hrelation hc
  obtain ⟨raw', hraw', hkey', rfl⟩ := hrelation hd
  by_contra hne
  have hagrees : raw.Agrees raw' := hrows.forall hraw hraw'
    fun heq => hne (congrArg RawColumn.describe heq)
  exact (hagrees (hkey.trans hkey'.symm)).2 hposition

theorem eq_of_key (h : RowPartition rows tables) (h' : RowPartition rows' tables')
    (hperm : rows.Perm rows') (hrows : rows.Pairwise RawColumn.Agrees) (ht : t ∈ tables)
    (ht' : t' ∈ tables') (hkey : t.key = t'.key) : t = t' := by
  have hkind : t.kind = t'.kind := by
    obtain ⟨raw, hraw, hrawKey, hrawKind⟩ := h.exists_head ht
    obtain ⟨raw', hraw', hrawKey', hrawKind'⟩ := h'.exists_head ht'
    rw [← hrawKind, ← hrawKind']
    by_cases heq : raw = raw'
    · rw [heq]
    · have hagrees : raw.Agrees raw' :=
        hrows.forall hraw (hperm.mem_iff.2 hraw') heq
      exact (hagrees (hrawKey.trans (hkey.trans hrawKey'.symm))).1
  have hcolumns : t.columns = t'.columns := by
    have hrelation : t.columns.Perm t'.columns := by
      have hfiltered : (rowsOfRelation t.key rows).Perm (rowsOfRelation t'.key rows') := by
        rw [hkey]
        exact hperm.filter _
      exact (h.columns t ht).trans ((hfiltered.map _).trans (h'.columns t' ht').symm)
    -- Both are sorted by position, where no two columns of a table are level.
    refine hrelation.eq_of_pairwise (fun c d hc hd hle hge => ?_) (h.positions t ht)
      (h'.positions t' ht')
    exact h.eq_of_position hrows ht hc (hrelation.mem_iff.2 hd) (Int16.le_antisymm hle hge)
  obtain ⟨schema, name, kind, columns⟩ := t
  obtain ⟨schema', name', kind', columns'⟩ := t'
  obtain ⟨hschema, hname⟩ := Key.mk.inj hkey
  exact Table.mk.injEq .. ▸ ⟨hschema, hname, hkind, hcolumns⟩

theorem subset_of_perm (h : RowPartition rows tables) (h' : RowPartition rows' tables')
    (hperm : rows.Perm rows') (hrows : rows.Pairwise RawColumn.Agrees) : tables ⊆ tables' := by
  intro t ht
  obtain ⟨raw, hraw, hkey⟩ := (h.keys t.key).1 (List.mem_map_of_mem ht)
  obtain ⟨t', ht', hkey'⟩ :=
    List.mem_map.1 ((h'.keys t.key).2 ⟨raw, hperm.mem_iff.1 hraw, hkey⟩)
  rw [h.eq_of_key h' hperm hrows ht ht' hkey'.symm]
  exact ht'

/-- The tables that part rows depend on which rows there are, not on their order. -/
theorem unique (h : RowPartition rows tables) (h' : RowPartition rows' tables')
    (hperm : rows.Perm rows') (hrows : rows.Pairwise RawColumn.Agrees) : tables = tables' := by
  have hrows' : rows'.Pairwise RawColumn.Agrees :=
    (hperm.pairwise_iff fun h => symm h).1 hrows
  have htables : tables.Perm tables' := by
    refine (List.perm_ext_iff_of_nodup (.of_map _ h.once) (.of_map _ h'.once)).2 fun t => ?_
    exact ⟨fun ht => h.subset_of_perm h' hperm hrows ht,
      fun ht => h'.subset_of_perm h hperm.symm hrows' ht⟩
  -- The same tables, each once, in one strict order.
  refine htables.eq_of_pairwise (fun s t _ _ hlt hgt => ?_) h.ordered h'.ordered
  exact absurd hgt (lt_asymm hlt)

end RowPartition

theorem assembleSchema_outcome_perm {rows rows' : List RawColumn} (hperm : rows.Perm rows')
    (hrows : rows.Pairwise RawColumn.Agrees) (name : String) (filter : TableFilter) :
    (assembleSchema name rows filter {}).outcome =
      (assembleSchema name rows' filter {}).outcome := by
  rw [assembleSchema_outcome, assembleSchema_outcome,
    (tablesOf_rowPartition _).unique (tablesOf_rowPartition _) (hperm.filter _)
      (hrows.filter _)]

/-- Whether a call is on a hook that gets what the catalog describes. -/
def GeneratorCall.isOnCatalog : GeneratorCall → Bool
  | catalog _ => true
  | progress _ | model _ | rendered .. | prepare | writeTable _ | writeIndex _ => false

namespace Generator

variable {σ : Type}

/-- Two trails that differ in their calls on the catalog hooks at most. -/
structure SameRun (t t' : Trail σ GeneratorCall Error GenerationReport) : Prop where
  outcome : t.outcome = t'.outcome
  state : t.state = t'.state
  calls : t.calls.filter (!·.isOnCatalog) = t'.calls.filter (!·.isOnCatalog)

theorem opening_notOnCatalog (config : GeneratorConfig) (source : SchemaSource)
    (hooks : GeneratorHooks) : (opening config source hooks).filter (!·.isOnCatalog) =
      [.progress .connecting, .progress .fetchingSchema] := by
  have hcatalog (calls : List CatalogCall) :
      (calls.map GeneratorCall.catalog).filter (!·.isOnCatalog) = [] := by
    rw [List.filter_map, List.map_eq_nil_iff, List.filter_eq_nil_iff]
    exact fun _ _ => nofun
  exact congrArg (.progress .connecting :: .progress .fetchingSchema :: ·) (hcatalog _)

/-- What a run does follows from the schema it fetches. -/
theorem run_sameRun {config : GeneratorConfig} {source source' : SchemaSource}
    {hooks : GeneratorHooks}
    (h : (source config hooks.catalog).outcome = (source' config hooks.catalog).outcome)
    (writer : Writer σ) (s : σ) :
    SameRun (run config source hooks writer s) (run config source' hooks writer s) := by
  cases hvalid : config.validate with
  | error e =>
    rw [run_of_refused source hooks writer s hvalid, run_of_refused source' hooks writer s hvalid]
    exact ⟨rfl, rfl, rfl⟩
  | ok u =>
    cases hfetched : (source config hooks.catalog).outcome with
    | error e =>
      rw [run_of_unfetched source hooks writer s hvalid hfetched,
        run_of_unfetched source' hooks writer s hvalid (h ▸ hfetched)]
      refine ⟨rfl, rfl, ?_⟩
      rw [opening_notOnCatalog, opening_notOnCatalog]
    | ok schema =>
      rw [run_of_fetched source hooks writer s hvalid hfetched,
        run_of_fetched source' hooks writer s hvalid (h ▸ hfetched)]
      refine ⟨rfl, rfl, ?_⟩
      rw [List.filter_append, List.filter_append, opening_notOnCatalog, opening_notOnCatalog]

end Generator

theorem SchemaSource.ofRows_outcome_perm {rows rows' : List RawColumn} (hperm : rows.Perm rows')
    (hrows : rows.Pairwise RawColumn.Agrees) (config : GeneratorConfig) :
    (SchemaSource.ofRows rows config {}).outcome =
      (SchemaSource.ofRows rows' config {}).outcome := by
  rw [SchemaSource.ofRows, SchemaSource.ofRows]
  cases hconnection : config.connection.validate with
  | error e => rfl
  | ok u =>
    cases hfilter : config.filter.compile with
    | error e => rfl
    | ok filter => exact assembleSchema_outcome_perm hperm hrows config.schema filter

/-- Any order of the rows gives one schema, and a run writes what it writes for any other order. -/
theorem assembleSchema_perm {rows rows' : List RawColumn} (hperm : rows.Perm rows')
    (hrows : rows.Pairwise RawColumn.Agrees) :
    (∀ name filter, ∃ schema, (assembleSchema name rows filter {}).outcome = .ok schema ∧
      (assembleSchema name rows' filter {}).outcome = .ok schema) ∧
    ∀ {σ : Type} (config : GeneratorConfig) (model : ModelHooks)
      (rendered : TableModel → RenderedModule → Except String RenderedModule) (writer : Writer σ)
      (s : σ), Generator.SameRun
        (Generator.run config (.ofRows rows) { model, rendered } writer s)
        (Generator.run config (.ofRows rows') { model, rendered } writer s) := by
  refine ⟨fun name filter => ⟨_, assembleSchema_outcome name rows filter, ?_⟩,
    fun config model rendered writer s => ?_⟩
  · rw [← assembleSchema_outcome_perm hperm hrows, assembleSchema_outcome]
  · exact Generator.run_sameRun (SchemaSource.ofRows_outcome_perm hperm hrows config) writer s

/-- Two relations of one name in different schemas, their rows mixed and out of order. -/
theorem assembleSchema_perm_schemas :
    let row (schema name : String) (position : Int16) : RawColumn :=
      ⟨name, "users", .table, schema, "text", false, none, none, none, [], [], position⟩
    let rows := [row "b" "name" 2, row "a" "name" 2, row "b" "id" 1, row "a" "id" 1]
    let sorted := [row "a" "id" 1, row "a" "name" 2, row "b" "id" 1, row "b" "name" 2]
    rows.Perm sorted ∧ rows.Pairwise RawColumn.Agrees ∧
      ∃ schema, (assembleSchema "public" rows {} {}).outcome = .ok schema ∧
        (assembleSchema "public" sorted {} {}).outcome = .ok schema ∧
        schema.tables.map (fun t => (t.schemaName, t.columns.map (·.name))) =
          [("a", ["id", "name"]), ("b", ["id", "name"])] := by
  intro row rows sorted
  have hperm : rows.Perm sorted := by decide +kernel
  have hrows : rows.Pairwise RawColumn.Agrees := by decide +kernel
  obtain ⟨schema, hschema, hsorted⟩ := (assembleSchema_perm hperm hrows).1 "public" {}
  have htables : (assembleSchema "public" rows {} {}).outcome.map
      (fun s => s.tables.map fun t => (t.schemaName, t.columns.map (·.name))) =
        .ok [("a", ["id", "name"]), ("b", ["id", "name"])] := by decide +kernel
  rw [hschema] at htables
  exact ⟨hperm, hrows, schema, hschema, hsorted, Except.ok.inj htables⟩

end ZodCatalog
