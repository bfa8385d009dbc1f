import ZodCatalog.Proofs.TableWrites

/-! Models and modules that no hook changes. Building them never fails, and their columns are the
column models as they were first made. -/

namespace ZodCatalog

namespace ModelBuilder

variable (b : ModelBuilder)

/-- The model of a table when no hook changes it. -/
def plainModel (t : Table) : TableModel := b.tableModel t (t.columns.map (b.columnModel t.name))

/-- The module of a table when no hook changes it. -/
def plainModule (t : Table) : RenderedModule := (b.plainModel t).emit b.profile

/-- What is derived again from an unchanged column is as it was. -/
theorem settle_self (table : String) (c : Column) :
    b.settle table (b.columnModel table c) (b.columnModel table c) = b.columnModel table c := by
  simp [settle, columnModel]

theorem buildColumns_outcome (table : String) (cs : List Column) :
    (b.buildColumns {} table cs).outcome = .ok (cs.map (b.columnModel table)) := by
  induction cs with
  | nil => rfl
  | cons c cs ih =>
    have hcolumn : (b.buildColumn {} table c).outcome = .ok (b.columnModel table c) :=
      congrArg Except.ok (b.settle_self table c)
    rw [buildColumns, Traced.bind_of_ok hcolumn, Traced.bind_of_ok ih]
    rfl

theorem build_outcome (t : Table) : (b.build {} t).outcome = .ok (b.plainModel t) := by
  rw [build, Traced.bind_of_ok (b.buildColumns_outcome t.name t.columns)]
  rfl

end ModelBuilder

theorem Generator.rendering_plain (b : ModelBuilder) (catalog : CatalogHooks) (t : Table) :
    rendering b { catalog } t = .ok (b.plainModel t, b.plainModule t) := by
  have hbuilt : ((Process.ofTraced ((b.build {} t).mapCalls GeneratorCall.model) :
      Process Unit GeneratorCall Error TableModel) ()).outcome = .ok (b.plainModel t) :=
    b.build_outcome t
  rw [rendering, renderTable, Process.bind_of_ok hbuilt]
  rfl

end ZodCatalog
