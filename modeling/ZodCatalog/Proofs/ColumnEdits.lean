import Mathlib.Data.List.Forall2
import ZodCatalog.Catalog.Classification
import ZodCatalog.Proofs.PlainModels

/-! Column hooks. What a hook leaves alone is derived from the column it hands back, so editing the
columns of a table in a hook gives the same model as editing them beforehand. -/

namespace ZodCatalog

/-- The table with its columns edited. -/
def Table.editColumns (t : Table) (g : Column → Column) : Table :=
  { t with columns := t.columns.map g }

/-- The hook that edits the column of a model and hands back all else as it is. -/
def ModelHooks.editing (g : Column → Column) : ModelHooks where
  column m := .ok { m with column := g m.column }

namespace ModelBuilder

variable {b : ModelBuilder} {hooks : ModelHooks} {table : String}

theorem buildColumn_of_ok {c : Column} {edited : ColumnModel}
    (h : hooks.column (b.columnModel table c) = .ok edited) :
    (b.buildColumn hooks table c).outcome =
      .ok (b.settle table (b.columnModel table c) edited) := by
  have hcall : (Traced.call (ModelCall.column (b.columnModel table c))
      ((hooks.column (b.columnModel table c)).mapError Error.hook)).outcome = .ok edited := by
    rw [h]
    rfl
  rw [buildColumn, Traced.bind_of_ok hcall]
  rfl

theorem buildColumn_of_error {c : Column} {detail : String}
    (h : hooks.column (b.columnModel table c) = .error detail) :
    (b.buildColumn hooks table c).outcome = .error (.hook detail) := by
  have hcall : (Traced.call (ModelCall.column (b.columnModel table c))
      ((hooks.column (b.columnModel table c)).mapError Error.hook)).outcome =
        .error (.hook detail) := by
    rw [h]
    rfl
  rw [buildColumn, Traced.bind_of_error hcall]

variable (b hooks table) in
/-- What the hook makes of the model of a column, settled. -/
def Settles (c : Column) (m : ColumnModel) : Prop :=
  ∃ edited, hooks.column (b.columnModel table c) = .ok edited ∧
    m = b.settle table (b.columnModel table c) edited

theorem buildColumns_eq_ok_iff {cs : List Column} {ms : List ColumnModel} :
    (b.buildColumns hooks table cs).outcome = .ok ms ↔
      List.Forall₂ (b.Settles hooks table) cs ms := by
  induction cs generalizing ms with
  | nil =>
    rw [List.forall₂_nil_left_iff]
    constructor
    · intro h
      exact (Except.ok.inj h).symm
    · rintro rfl
      rfl
  | cons c cs ih =>
    rw [List.forall₂_cons_left_iff, buildColumns]
    -- In the order of the calls: this column's hook, then those of the others; either may refuse.
    cases hc : hooks.column (b.columnModel table c) with
    | error detail =>
      rw [Traced.bind_of_error (buildColumn_of_error hc)]
      constructor
      · intro h
        cases h
      · rintro ⟨m, ms', ⟨edited, hedited, -⟩, -⟩
        cases hc.symm.trans hedited
    | ok edited =>
      have hsettles (m : ColumnModel) : b.Settles hooks table c m ↔
          m = b.settle table (b.columnModel table c) edited := by
        constructor
        · rintro ⟨edited', hedited, rfl⟩
          rw [Except.ok.inj (hc.symm.trans hedited)]
        · intro hm
          exact ⟨edited, hc, hm⟩
      rw [Traced.bind_of_ok (buildColumn_of_ok hc)]
      cases hcs : (b.buildColumns hooks table cs).outcome with
      | error e =>
        rw [Traced.bind_of_error hcs]
        constructor
        · intro h
          cases h
        · rintro ⟨m, ms', -, hms, -⟩
          cases hcs.symm.trans (ih.2 hms)
      | ok ms' =>
        rw [Traced.bind_of_ok hcs]
        constructor
        · intro h
          exact ⟨_, ms', (hsettles _).2 rfl, ih.1 hcs, (Except.ok.inj h).symm⟩
        · rintro ⟨m, ms'', hm, hms, rfl⟩
          rw [(hsettles m).1 hm, Except.ok.inj (hcs.symm.trans (ih.2 hms))]
          rfl

theorem buildColumns_eq_error {cs : List Column} {e : Error}
    (h : (b.buildColumns hooks table cs).outcome = .error e) :
    ∃ c ∈ cs, ∃ detail, hooks.column (b.columnModel table c) = .error detail ∧
      e = .hook detail := by
  induction cs with
  | nil => contradiction
  | cons c cs ih =>
    rw [buildColumns] at h
    cases hc : hooks.column (b.columnModel table c) with
    | error detail =>
      rw [Traced.bind_of_error (buildColumn_of_error hc)] at h
      exact ⟨c, List.mem_cons_self, detail, hc, (Except.error.inj h).symm⟩
    | ok edited =>
      rw [Traced.bind_of_ok (buildColumn_of_ok hc)] at h
      cases hcs : (b.buildColumns hooks table cs).outcome with
      | ok ms =>
        rw [Traced.bind_of_ok hcs] at h
        contradiction
      | error e' =>
        rw [Traced.bind_of_error hcs] at h
        obtain ⟨c', hc', hrefused⟩ := ih (hcs.trans h)
        exact ⟨c', List.mem_cons_of_mem c hc', hrefused⟩

theorem exists_settles_of_mem {cs : List Column} {ms : List ColumnModel} {m : ColumnModel}
    (h : List.Forall₂ (b.Settles hooks table) cs ms) (hm : m ∈ ms) :
    ∃ c ∈ cs, b.Settles hooks table c m := by
  induction h with
  | nil => contradiction
  | @cons c m' cs ms hc _ ih =>
    rcases List.mem_cons.1 hm with rfl | hm
    · exact ⟨c, List.mem_cons_self, hc⟩
    · obtain ⟨c', hc', hsettles⟩ := ih hm
      exact ⟨c', List.mem_cons_of_mem c hc', hsettles⟩

section ColumnHook

variable {column : ColumnModel → Except String ColumnModel} {t : Table}

/-- Without a table hook, building succeeds if all columns do. -/
theorem build_eq_ok_iff {m : TableModel} : (b.build { column } t).outcome = .ok m ↔
    ∃ ms, List.Forall₂ (b.Settles { column } t.name) t.columns ms ∧ m = b.tableModel t ms := by
  rw [build]
  cases h : (b.buildColumns { column } t.name t.columns).outcome with
  | error e =>
    rw [Traced.bind_of_error h]
    constructor
    · intro hm
      cases hm
    · rintro ⟨ms, hms, -⟩
      cases h.symm.trans (buildColumns_eq_ok_iff.2 hms)
  | ok ms =>
    rw [Traced.bind_of_ok h]
    constructor
    · intro hm
      exact ⟨ms, buildColumns_eq_ok_iff.1 h, (Except.ok.inj hm).symm⟩
    · rintro ⟨ms', hms, rfl⟩
      rw [Except.ok.inj (h.symm.trans (buildColumns_eq_ok_iff.2 hms))]
      rfl

theorem build_eq_error {e : Error} (h : (b.build { column } t).outcome = .error e) :
    ∃ c ∈ t.columns, ∃ detail, column (b.columnModel t.name c) = .error detail ∧
      e = .hook detail := by
  rw [build] at h
  cases hcs : (b.buildColumns { column } t.name t.columns).outcome with
  | error e' =>
    rw [Traced.bind_of_error hcs] at h
    exact Except.error.inj h ▸ buildColumns_eq_error hcs
  | ok ms =>
    rw [Traced.bind_of_ok hcs] at h
    contradiction

end ColumnHook

/-- Under an unchanged name, an edited column settles in the model of the edited column. -/
theorem settle_editColumn {g : Column → Column} {c : Column} (hname : (g c).name = c.name) :
    b.settle table (b.columnModel table c) { b.columnModel table c with column := g c } =
      b.columnModel table (g c) := by
  simp [settle, columnModel, hname]

/-- Editing the columns of a table in a hook gives the model of the table with its columns edited,
as long as the columns keep their names. -/
theorem build_editing (b : ModelBuilder) {g : Column → Column} (hname : ∀ c, (g c).name = c.name)
    (t : Table) :
    ∃ m, (b.build (.editing g) t).outcome = .ok m ∧
      (b.build {} (t.editColumns g)).outcome = .ok m := by
  refine ⟨b.plainModel (t.editColumns g), build_eq_ok_iff.2 ⟨_, ?_, rfl⟩, b.build_outcome _⟩
  rw [Table.editColumns, List.map_map, List.forall₂_map_right_iff, List.forall₂_same]
  intro c _
  exact ⟨_, rfl, (settle_editColumn (hname c)).symm⟩

/-- A text column given values in a hook gets a constant, one that loses them falls back to text,
and one retyped as JSON is imported. -/
theorem build_editing_kinds :
    let b : ModelBuilder := ⟨{}, Dialect.zod4.profile, {}, some "./json"⟩
    let raw (name dataType : String) (labels : List String) : RawColumn :=
      ⟨name, "users", .table, "public", dataType, false, none, none, none, [], labels, 1⟩
    let t : Table := ⟨"public", "users", .table, [(raw "role" "text" []).describe,
      (raw "status" "user_status" ["new", "old"]).describe, (raw "meta" "text" []).describe]⟩
    let g (c : Column) : Column :=
      if c.name = "role" then { c with enumValues := ["admin"], isNullable := true }
      else if c.name = "status" then { c with enumValues := [] }
      else { c with kind := .json, isWritable := false }
    (∀ c, (g c).name = c.name) ∧
      ∃ m, (b.build (.editing g) t).outcome = .ok m ∧
        (b.build {} (t.editColumns g)).outcome = .ok m := by
  intro b raw t g
  have hname : ∀ c, (g c).name = c.name := by
    intro c
    simp only [g]
    split
    · rfl
    · split <;> rfl
  exact ⟨hname, build_editing b hname t⟩

end ModelBuilder

end ZodCatalog
