import Mathlib.Data.List.Forall2
import ZodCatalog.Proofs.ProcessLaws
import ZodCatalog.Proofs.RowPartition

/-! The calls on the hooks of a catalog. All of them are planned by the rows: one for each row in
turn, and then one for each relation, on what the first ones have returned. They are made in this
order up to the first that is refused. What a hook returns for a column or a table says nothing
about the relation it is called for; that is what the row says. -/

namespace ZodCatalog

/-- Why a hook refuses, if it does. -/
def refusalOf {α : Type} : Except String α → Option String
  | .ok _ => none
  | .error detail => some detail

namespace Traced

variable {κ α β : Type} {refusal? : κ → Option String} {planned later : List κ}

/-- A computation that makes planned calls in their order, up to the first that is refused, and
ends in an error just if one is. -/
structure Stops (refusal? : κ → Option String) (planned : List κ) (x : Traced κ Error α) :
    Prop where
  ordered : x.calls <+: planned
  accepted : ∀ c ∈ x.calls.dropLast, refusal? c = none
  failed : ∀ e, x.outcome = .error e →
    ∃ c detail, x.calls.getLast? = some c ∧ refusal? c = some detail ∧ e = .hook detail
  finished : ∀ a, x.outcome = .ok a → x.calls = planned ∧ ∀ c ∈ planned, refusal? c = none

namespace Stops

variable {x : Traced κ Error α} {f : α → Traced κ Error β}

theorem pure (a : α) : Stops refusal? [] (Pure.pure a : Traced κ Error α) :=
  ⟨List.nil_prefix, fun _ => nofun, fun _ => nofun, fun _ _ => ⟨rfl, fun _ => nofun⟩⟩

theorem call {c : κ} {result : Except String α} (h : refusal? c = refusalOf result) :
    Stops refusal? [c] (Traced.call c (result.mapError .hook)) := by
  refine ⟨List.prefix_rfl, fun _ => nofun, fun e he => ?_, fun a ha => ⟨rfl, fun d hd => ?_⟩⟩
  · cases result with
    | ok a => contradiction
    | error detail => exact ⟨c, detail, rfl, h, (Except.error.inj he).symm⟩
  · cases result with
    | ok a =>
      rw [List.mem_singleton.1 hd, h]
      rfl
    | error detail => contradiction

theorem bind (hx : Stops refusal? planned x)
    (hf : ∀ a, x.outcome = .ok a → Stops refusal? later (f a)) :
    Stops refusal? (planned ++ later) (x >>= f) := by
  cases h : x.outcome with
  | error e =>
    rw [bind_of_error h]
    refine ⟨hx.ordered.trans (List.prefix_append ..), hx.accepted, fun e' he => ?_, fun _ => nofun⟩
    exact hx.failed e' (h.trans (congrArg _ (Except.error.inj he)))
  | ok a =>
    rw [bind_of_ok h]
    obtain ⟨hcalls, hnone⟩ := hx.finished a h
    have hrest := hf a h
    refine ⟨?_, fun c hc => ?_, fun e he => ?_, fun b hb => ?_⟩
    · rw [hcalls]
      exact (List.prefix_append_right_inj _).2 hrest.ordered
    · rw [hcalls] at hc
      cases hlast : (f a).calls with
      | nil =>
        rw [hlast, List.append_nil] at hc
        exact hnone c (List.dropLast_subset _ hc)
      | cons d ds =>
        rw [List.dropLast_append_of_ne_nil (hlast ▸ List.cons_ne_nil d ds)] at hc
        exact (List.mem_append.1 hc).elim (hnone c) (hrest.accepted c)
    · obtain ⟨c, detail, hlast, hrefused, rfl⟩ := hrest.failed e he
      exact ⟨c, detail, by simp [List.getLast?_append, hlast], hrefused, rfl⟩
    · obtain ⟨hlater, hnone'⟩ := hrest.finished b hb
      refine ⟨by rw [hcalls, hlater], fun c hc => ?_⟩
      exact (List.mem_append.1 hc).elim (hnone c) (hnone' c)

/-- The error is that of the last call, and without one all calls were made. -/
theorem error_iff (h : Stops refusal? planned x) (e : Error) : x.outcome = .error e ↔
    ∃ c detail, x.calls.getLast? = some c ∧ refusal? c = some detail ∧ e = .hook detail := by
  refine ⟨h.failed e, ?_⟩
  rintro ⟨c, detail, hlast, hrefused, rfl⟩
  cases hx : x.outcome with
  | ok a =>
    obtain ⟨hcalls, hnone⟩ := h.finished a hx
    have hc := hnone c (hcalls ▸ List.mem_of_getLast? hlast)
    rw [hc] at hrefused
    contradiction
  | error e =>
    obtain ⟨c', detail', hlast', hrefused', rfl⟩ := h.failed e hx
    obtain rfl : c = c' := Option.some.inj (hlast.symm.trans hlast')
    rw [Option.some.inj (hrefused.symm.trans hrefused')]

end Stops
end Traced

def CatalogHooks.refusal? (hooks : CatalogHooks) : CatalogCall → Option String
  | .column c => refusalOf (hooks.column c)
  | .table t => refusalOf (hooks.table t)

/-- The name of the relation that a call is for. -/
def CatalogCall.relation : CatalogCall → String
  | column c => c.tableName
  | table t => t.name

namespace Assembly

variable {hooks : CatalogHooks} {rows : List RawColumn} {groups : List Group}

/-- Rows with what the column hook returns for them, those that it refuses left out. -/
def returned (hooks : CatalogHooks) (rows : List RawColumn) : List (RawColumn × Column) :=
  rows.filterMap fun raw => (hooks.column raw.describe).toOption.map (raw, ·)

theorem groupRows_stops (hooks : CatalogHooks) (groups : List Group) (rows : List RawColumn) :
    (groupRows hooks groups rows).Stops hooks.refusal? (rows.map (.column ·.describe)) := by
  induction rows generalizing groups with
  | nil => exact .pure groups
  | cons raw rows ih =>
    have hrefusal : hooks.refusal? (.column raw.describe) =
        refusalOf (hooks.column raw.describe) := rfl
    exact (Traced.Stops.call hrefusal).bind fun column _ => ih _

theorem groupTables_stops (hooks : CatalogHooks) (groups : List Group) :
    (groupTables hooks groups).Stops hooks.refusal?
      (groups.map fun g : Group => .table g.table) := by
  induction groups with
  | nil => exact .pure []
  | cons g gs ih =>
    have hrefusal : hooks.refusal? (.table g.table) = refusalOf (hooks.table g.table) := rfl
    refine (Traced.Stops.call hrefusal).bind fun t _ => ?_
    rw [← List.append_nil (List.map _ gs)]
    exact ih.bind fun ts _ => .pure (t :: ts)

/-- Rows that are grouped without a refusal have a column each, which their groups get. -/
theorem groupRows_eq_ok {groups' : List Group}
    (h : (groupRows hooks groups rows).outcome = .ok groups') :
    groups' = collect (returned hooks rows) groups ∧
      List.Forall₂ (fun raw e => e.1 = raw ∧ hooks.column raw.describe = .ok e.2) rows
        (returned hooks rows) := by
  induction rows generalizing groups with
  | nil => exact ⟨(Except.ok.inj h).symm, .nil⟩
  | cons raw rows ih =>
    obtain ⟨column, hcall, hrest⟩ := Traced.exists_of_bind_ok h
    have hcolumn : hooks.column raw.describe = .ok column := eq_ok_of_mapError hcall
    have hreturned : returned hooks (raw :: rows) = (raw, column) :: returned hooks rows := by
      simp [returned, hcolumn, Except.toOption]
    obtain ⟨rfl, hrows⟩ := ih hrest
    rw [hreturned]
    exact ⟨rfl, .cons ⟨rfl, hcolumn⟩ hrows⟩

theorem groupTables_eq_ok {tables : List Table}
    (h : (groupTables hooks groups).outcome = .ok tables) :
    List.Forall₂ (fun t edited => hooks.table t = .ok edited) (groups.map Group.table) tables := by
  induction groups generalizing tables with
  | nil =>
    rw [← Except.ok.inj h]
    exact .nil
  | cons g gs ih =>
    obtain ⟨t, hcall, hrest⟩ := Traced.exists_of_bind_ok h
    obtain ⟨ts, hts, htables⟩ := Traced.exists_of_bind_ok hrest
    rw [← Except.ok.inj htables]
    exact .cons (eq_ok_of_mapError hcall) (ih hts)

/-- How the hooks are called for rows. The tables they are called on group the rows with what the
column hook has returned for them, and a table hook is called only when it has returned a column
for each. The schema has what the table hook has returned, by kind and name, ties as called. -/
structure HookOrder (hooks : CatalogHooks) (name : String) (rows : List RawColumn)
    (tables : List Table) (x : Traced CatalogCall Error Schema) : Prop where
  stops : x.Stops hooks.refusal? (rows.map (.column ·.describe) ++ tables.map .table)
  grouping : Grouping (returned hooks rows) tables
  columns : ∀ t, .table t ∈ x.calls →
    List.Forall₂ (fun raw e => e.1 = raw ∧ hooks.column raw.describe = .ok e.2) rows
      (returned hooks rows)
  refused : ∀ e, x.outcome = .error e ↔ ∃ c detail,
    x.calls.getLast? = some c ∧ hooks.refusal? c = some detail ∧ e = .hook detail
  assembled : ∀ s, x.outcome = .ok s → s.name = name ∧ ∃ edited,
    List.Forall₂ (fun t edited => hooks.table t = .ok edited) tables edited ∧
    s.tables.Perm edited ∧
    (s.tables.Pairwise fun t u => toLex (t.kind.rank, t.name) ≤ toLex (u.kind.rank, u.name)) ∧
    ∀ kind name, s.tables.filter (fun t => t.kind = kind ∧ t.name = name) =
      edited.filter fun t => t.kind = kind ∧ t.name = name

theorem stableSort_before (tables : List Table) :
    (stableSort Table.before tables).Perm tables ∧
    ((stableSort Table.before tables).Pairwise fun t u =>
      toLex (t.kind.rank, t.name) ≤ toLex (u.kind.rank, u.name)) ∧
    ∀ kind name, (stableSort Table.before tables).filter
        (fun t => t.kind = kind ∧ t.name = name) =
      tables.filter fun t => t.kind = kind ∧ t.name = name := by
  have hordered := stableSort_pairwise Table.before_total Table.before_trans tables
  refine ⟨stableSort_perm tables, hordered.imp Table.before_iff.1, fun kind name => ?_⟩
  refine filter_stableSort (fun s t hs ht => ?_) tables
  obtain ⟨hskind, hsname⟩ := of_decide_eq_true hs
  obtain ⟨htkind, htname⟩ := of_decide_eq_true ht
  rw [Table.before_iff, hskind, hsname, htkind, htname]

section Assembled

variable {name : String} {filter : TableFilter} {allowed : List RawColumn}
  (hallowed : (rows.filter fun raw => filter.allows raw.tableName) = allowed)

include hallowed

theorem assembleSchema_stops : (assembleSchema name rows filter hooks).Stops hooks.refusal?
    (allowed.map (.column ·.describe) ++
      ((collect (returned hooks allowed) []).map Group.table).map .table) := by
  rw [assembleSchema, hallowed, List.map_map]
  refine (groupRows_stops hooks [] allowed).bind fun groups hgroups => ?_
  rw [(groupRows_eq_ok hgroups).1, ← List.append_nil (List.map _ _)]
  exact (groupTables_stops hooks _).bind fun tables _ => .pure _

theorem columns_of_table_call {t : Table}
    (ht : .table t ∈ (assembleSchema name rows filter hooks).calls) :
    List.Forall₂ (fun raw e => e.1 = raw ∧ hooks.column raw.describe = .ok e.2) allowed
      (returned hooks allowed) := by
  cases hgroups : (groupRows hooks [] allowed).outcome with
  | ok groups => exact (groupRows_eq_ok hgroups).2
  | error e =>
    -- Then all calls were on columns.
    rw [assembleSchema, hallowed, Traced.bind_of_error hgroups] at ht
    have hcolumn := (groupRows_stops hooks [] allowed).ordered.subset ht
    obtain ⟨raw, -, hraw⟩ := List.mem_map.1 hcolumn
    contradiction

theorem assembleSchema_eq_ok {s : Schema}
    (hs : (assembleSchema name rows filter hooks).outcome = .ok s) :
    s.name = name ∧ ∃ edited,
      List.Forall₂ (fun t edited => hooks.table t = .ok edited)
        ((collect (returned hooks allowed) []).map Group.table) edited ∧
      s.tables = stableSort Table.before edited := by
  rw [assembleSchema, hallowed] at hs
  obtain ⟨groups, hgroups, hrest⟩ := Traced.exists_of_bind_ok hs
  obtain ⟨edited, hedited, hschema⟩ := Traced.exists_of_bind_ok hrest
  obtain rfl := (groupRows_eq_ok hgroups).1
  rw [← Except.ok.inj hschema]
  exact ⟨rfl, edited, groupTables_eq_ok hedited, rfl⟩

/-- A planned call is for a relation that the filter allows. -/
theorem allows_relation {c : CatalogCall} (hc : c ∈ allowed.map (.column ·.describe) ++
      ((collect (returned hooks allowed) []).map Group.table).map .table) :
    filter.allows c.relation = true := by
  have hname {raw : RawColumn} (hraw : raw ∈ allowed) : filter.allows raw.tableName = true := by
    rw [← hallowed] at hraw
    exact (List.mem_filter.1 hraw).2
  rcases List.mem_append.1 hc with hc | hc
  · obtain ⟨raw, hraw, rfl⟩ := List.mem_map.1 hc
    exact hname hraw
  · -- A table has the key of one of the rows that it groups.
    obtain ⟨t, ht, rfl⟩ := List.mem_map.1 hc
    have hkeys := (collect_grouping (returned hooks allowed)).keys t.key
    obtain ⟨e, he, hkey⟩ := hkeys.1 (List.mem_map_of_mem ht)
    obtain ⟨raw, hraw, hcolumn⟩ := List.mem_filterMap.1 he
    obtain ⟨column, -, rfl⟩ := Option.map_eq_some_iff.1 hcolumn
    have hrelation : raw.tableName = t.name := congrArg Key.table hkey
    show filter.allows t.name = true
    rw [← hrelation]
    exact hname hraw

end Assembled

/-- The hooks are called for the rows of the relations that the filter allows and for no others: for
each row in turn, then for each relation, until one refuses. -/
theorem assembleSchema_hooked (name : String) (rows : List RawColumn) (filter : TableFilter)
    (hooks : CatalogHooks) :
    ∃ tables, HookOrder hooks name (rows.filter fun raw => filter.allows raw.tableName) tables
        (assembleSchema name rows filter hooks) ∧
      ∀ c ∈ (assembleSchema name rows filter hooks).calls, filter.allows c.relation = true := by
  generalize hallowed : (rows.filter fun raw => filter.allows raw.tableName) = allowed
  have hstops := @assembleSchema_stops hooks rows name filter allowed hallowed
  refine ⟨_, ⟨hstops, collect_grouping _, fun t ht => columns_of_table_call hallowed ht,
    hstops.error_iff, fun s hs => ?_⟩, fun c hc => ?_⟩
  · obtain ⟨hname, edited, hedited, htables⟩ := assembleSchema_eq_ok hallowed hs
    rw [htables]
    exact ⟨hname, edited, hedited, stableSort_before edited⟩
  · exact allows_relation hallowed (hstops.ordered.subset hc)

end Assembly
end ZodCatalog
