import ZodCatalog.Catalog.Classification
import ZodCatalog.Proofs.BoundReferences

/-! Columns whose values are limited. What limits them is read from their checks and their type, the
kind of their values from their type, and the expression that reads them goes by the first alone: a
limited column is read as an enum of strings whatever its kind, and any other by its kind. -/

namespace ZodCatalog
open Zod

namespace RawColumn

/-- Checks with values, or labels of the type. -/
def IsLimited (raw : RawColumn) : Prop :=
  Check.enumValues raw.name raw.checkConstraints ≠ [] ∨ raw.enumLabels ≠ []

/-- The kind that the name of the type stands for. -/
def typeKind (raw : RawColumn) : FieldKind := FieldKind.ofType (splitArrayType raw.dataType).1

variable (raw : RawColumn)

theorem allowedValues_ne_nil_iff : raw.allowedValues ≠ [] ↔ raw.IsLimited := by
  rw [allowedValues, IsLimited]
  cases Check.enumValues raw.name raw.checkConstraints with
  | nil => simp
  | cons v vs => simp

theorem classify_kind : raw.classify.kind =
    if raw.typeKind = .unknown ∧ raw.enumLabels ≠ [] then .string else raw.typeKind := by
  simp [classify, typeKind, FieldKind.ofType, splitArrayType]

/-- A column of no known kind has a type without labels. -/
theorem enumLabels_eq_nil_of_unknown (h : raw.classify.kind = .unknown) : raw.enumLabels = [] := by
  rw [classify_kind] at h
  split at h
  · contradiction
  · rename_i hlabels
    exact not_not.1 fun hne => hlabels ⟨h, hne⟩

theorem kind_eq_string_of_labels (htype : raw.typeKind = .unknown) (h : raw.enumLabels ≠ []) :
    raw.classify.kind = .string := by
  rw [classify_kind, if_pos ⟨htype, h⟩]

end RawColumn

namespace Zod

theorem baseExpr_ne_enum (dates : Scalar) (c : BoundColumn) (constant : String) :
    baseExpr dates c ≠ .enum constant := by
  unfold baseExpr
  split
  case h_7 => split <;> nofun
  all_goals nofun

end Zod

namespace ModelBuilder

variable (b : ModelBuilder)

/-- A column whose reading goes by what limits its values: under the array and the null handling
there is an enum of its constant if anything does, and the schema of its kind if nothing does. -/
structure ReadsByValues (table : String) (raw : RawColumn) (m : ColumnModel) : Prop where
  column : m.column = raw.describe
  rendered : m.readType = (readExpr b.options m.toBoundColumn).text b.profile
  limited : raw.IsLimited →
    (readExpr b.options m.toBoundColumn).core = .enum (b.naming.enumConstant table raw.name)
  unlimited : ¬ raw.IsLimited →
    (readExpr b.options m.toBoundColumn).core = baseExpr .coercedDate m.toBoundColumn
  enum_iff : (∃ constant, (readExpr b.options m.toBoundColumn).core = .enum constant) ↔
    raw.IsLimited
  labels : raw.classify.kind = .unknown → raw.enumLabels = []
  known : raw.enumLabels ≠ [] → raw.classify.kind ≠ .string → raw.typeKind ≠ .unknown

theorem columnModel_readsByValues (table : String) (raw : RawColumn) :
    b.ReadsByValues table raw (b.columnModel table raw.describe) := by
  have henum : raw.describe.isEnum = true ↔ raw.IsLimited := by
    rw [← raw.allowedValues_ne_nil_iff]
    simp [Column.isEnum, RawColumn.describe, Column.ofRaw]
  -- The wrappers around it keep the core, which is chosen by the constant before the kind.
  have hcore : (readExpr b.options (b.columnModel table raw.describe).toBoundColumn).core =
      element .coercedDate (b.columnModel table raw.describe).toBoundColumn :=
    core_readExpr ..
  have hlimited (h : raw.IsLimited) :
      (readExpr b.options (b.columnModel table raw.describe).toBoundColumn).core =
        .enum (b.naming.enumConstant table raw.name) := by
    have hreference : enumReference (b.columnModel table raw.describe).toBoundColumn =
        some (b.naming.enumConstant table raw.name) := by
      simp [enumReference, columnModel, enumConstant?, henum.2 h]
      rfl
    rw [hcore, element, hreference]
  have hunlimited (h : ¬ raw.IsLimited) :
      (readExpr b.options (b.columnModel table raw.describe).toBoundColumn).core =
        baseExpr .coercedDate (b.columnModel table raw.describe).toBoundColumn := by
    have hreference : enumReference (b.columnModel table raw.describe).toBoundColumn = none :=
      if_neg (mt henum.1 h)
    rw [hcore, element, hreference]
  refine ⟨rfl, rfl, hlimited, hunlimited, ⟨fun h => ?_, fun h => ⟨_, hlimited h⟩⟩,
    raw.enumLabels_eq_nil_of_unknown, fun hlabels hkind htype => ?_⟩
  · obtain ⟨constant, h⟩ := h
    by_contra hnone
    exact baseExpr_ne_enum _ _ constant ((hunlimited hnone).symm.trans h)
  · exact hkind (raw.kind_eq_string_of_labels htype hlabels)

/-- Every column of a model that no hook changes is read by what limits its values. -/
theorem build_reads_by_values (b : ModelBuilder) (schema table : String) (kind : RelationKind)
    (raws : List RawColumn) :
    ∃ model, (b.build {} ⟨schema, table, kind, raws.map RawColumn.describe⟩).outcome = .ok model ∧
      List.Forall₂ (b.ReadsByValues table) raws model.columns := by
  refine ⟨_, b.build_outcome _, ?_⟩
  show List.Forall₂ _ raws ((raws.map RawColumn.describe).map (b.columnModel table))
  rw [List.map_map, List.forall₂_map_right_iff, List.forall₂_same]
  exact fun raw _ => b.columnModel_readsByValues table raw

/-- A column of integers that a check limits to two of them is read as an enum of two texts. -/
theorem build_reads_integers_as_texts :
    let b : ModelBuilder := ⟨{}, Dialect.default.profile, {}, none⟩
    let raw : RawColumn :=
      ⟨"level", "users", .table, "public", "int4", false, none, none, none,
        ["(level = ANY (ARRAY[1, 2]))"], [], 1⟩
    raw.classify.kind = .integer ∧ raw.describe.enumValues = ["1", "2"] ∧
      ∃ model, (b.build {} ⟨"public", "users", .table, [raw.describe]⟩).outcome = .ok model ∧
        model.columns.map (·.readType) = ["z.enum(USER_LEVELS)"] := by
  intro b raw
  refine ⟨by decide +kernel, by decide +kernel, _, b.build_outcome _, ?_⟩
  decide +kernel

end ModelBuilder

end ZodCatalog
