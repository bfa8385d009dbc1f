import Mathlib.Data.List.Basic
import Mathlib.Data.List.Forall2
import Mathlib.Data.List.Nodup
import ZodCatalog.Catalog.Document
import ZodCatalog.Entries
import ZodCatalog.Proofs.JsonLayouts

/-! Descriptors read back from what they are written as. Readers look fields up by name, so a
document may gain fields that they do not know and lose fields that are null. -/

namespace ZodCatalog

open Document

namespace Document

/-- Fields whose values are related, some that are null left out and some put in by their names. -/
inductive Fields.Loosens (related : Value → Value → Prop) : List String → Fields → Fields → Prop
  | nil : Loosens related [] [] []
  | keep {added : List String} {key : String} {v w : Value} {fs gs : Fields} (hv : related v w)
    (h : Loosens related added fs gs) : Loosens related added ((key, v) :: fs) ((key, w) :: gs)
  | drop {added : List String} {key : String} {fs gs : Fields}
    (h : Loosens related added fs gs) : Loosens related added ((key, .null) :: fs) gs
  -- What is put in is only named here: which names are new is for the whole record to say.
  | add {added : List String} {key : String} {w : Value} {fs gs : Fields}
    (h : Loosens related added fs gs) : Loosens related (key :: added) fs ((key, w) :: gs)

/-- A document with unknown fields put into any of its records and fields that are null left out. -/
inductive Value.Loosens : Value → Value → Prop
  | same (v : Value) : Loosens v v
  | list {vs ws : List Value} (h : List.Forall₂ Loosens vs ws) : Loosens (.list vs) (.list ws)
  | record {added : List String} {fs gs : Fields} (h : Fields.Loosens Loosens added fs gs)
    (hnew : ∀ key ∈ added, key ∉ fs.map Prod.fst) : Loosens (.record fs) (.record gs)

section Loosening

theorem Fields.Loosens.refl (fs : Fields) : Fields.Loosens Value.Loosens [] fs fs := by
  induction fs with
  | nil => exact .nil
  | cons f fs ih => exact .keep (.same f.2) ih

theorem Value.Loosens.of_list {vs : List Value} {w : Value} (h : (Value.list vs).Loosens w) :
    ∃ ws, w = .list ws ∧ List.Forall₂ Value.Loosens vs ws := by
  cases h with
  | same => exact ⟨vs, rfl, List.forall₂_same.mpr fun v _ => .same v⟩
  | list h => exact ⟨_, rfl, h⟩

theorem Value.Loosens.of_record {fs : Fields} {w : Value} (h : (Value.record fs).Loosens w) :
    ∃ added gs, w = .record gs ∧ Fields.Loosens Value.Loosens added fs gs ∧
      ∀ key ∈ added, key ∉ fs.map Prod.fst := by
  cases h with
  | same => exact ⟨[], fs, rfl, .refl fs, nofun⟩
  | record h hnew => exact ⟨_, _, rfl, h, hnew⟩

variable {related : Value → Value → Prop} {added : List String} {key : String} {fs gs : Fields}

/-- A field that is neither there nor put in is missing. -/
theorem Fields.Loosens.lookup_eq_none (h : Fields.Loosens related added fs gs)
    (hmissing : key ∉ fs.map Prod.fst) (hnew : key ∉ added) : gs.lookup key = none := by
  induction h with
  | nil => rfl
  | keep _ _ ih =>
    rw [List.map_cons, List.mem_cons, not_or] at hmissing
    rw [Entries.lookup_cons_of_ne hmissing.1]
    exact ih hmissing.2 hnew
  | drop _ ih =>
    rw [List.map_cons, List.mem_cons, not_or] at hmissing
    exact ih hmissing.2 hnew
  | add _ ih =>
    rw [List.mem_cons, not_or] at hnew
    rw [Entries.lookup_cons_of_ne hnew.1]
    exact ih hmissing hnew.2

/-- Each of the fields is found by its name, unless it is null and was left out. -/
def Fields.Found (fs gs : Fields) : Prop :=
  ∀ f ∈ fs, (∃ w, f.2.Loosens w ∧ gs.lookup f.1 = some w) ∨ (f.2 = .null ∧ gs.lookup f.1 = none)

theorem Fields.Loosens.found (h : Fields.Loosens Value.Loosens added fs gs)
    (hnew : ∀ key ∈ added, key ∉ fs.map Prod.fst) (hnodup : (fs.map Prod.fst).Nodup) :
    Fields.Found fs gs := by
  induction h with
  | nil => exact fun f hf => absurd hf List.not_mem_nil
  | @keep added key v w fs gs hv _ ih =>
    rw [List.map_cons, List.nodup_cons] at hnodup
    have hrest := ih (fun k hk hmem => hnew k hk (List.mem_cons_of_mem key hmem)) hnodup.2
    refine List.forall_mem_cons.mpr ⟨.inl ⟨w, hv, List.lookup_cons_self⟩, fun f hf => ?_⟩
    have hne : f.1 ≠ key := ne_of_mem_of_not_mem (List.mem_map_of_mem hf) hnodup.1
    rw [Entries.lookup_cons_of_ne hne]
    exact hrest f hf
  | @drop added key fs gs h ih =>
    rw [List.map_cons, List.nodup_cons] at hnodup
    have hrest := ih (fun k hk hmem => hnew k hk (List.mem_cons_of_mem key hmem)) hnodup.2
    -- Left out, the name is met neither among the other fields nor among those put in.
    refine List.forall_mem_cons.mpr ⟨.inr ⟨rfl, ?_⟩, hrest⟩
    exact h.lookup_eq_none hnodup.1 fun hkey => hnew key hkey List.mem_cons_self
  | @add added key w fs gs _ ih =>
    rw [List.forall_mem_cons] at hnew
    intro f hf
    have hne : f.1 ≠ key := ne_of_mem_of_not_mem (List.mem_map_of_mem hf) hnew.1
    rw [Entries.lookup_cons_of_ne hne]
    exact ih hnew.2 hnodup f hf

/-- The fields of a record are found by their names in whatever it is loosened to. -/
theorem Value.Loosens.found {w : Value} (h : (Value.record fs).Loosens w)
    (hnodup : (fs.map Prod.fst).Nodup) : ∃ gs, w = .record gs ∧ Fields.Found fs gs := by
  obtain ⟨added, gs, hw, hfields, hnew⟩ := h.of_record
  exact ⟨gs, hw, hfields.found hnew hnodup⟩

end Loosening

section Readers
variable {α : Type}

/-- A reader that takes a value and all that it is loosened to for the same. -/
def Reads (item : Value → Option α) (v : Value) (a : α) : Prop :=
  ∀ w, v.Loosens w → item w = some a

theorem reads_text (s : String) : Reads Value.asText? (.text s) s := by
  rintro _ ⟨⟩
  rfl

theorem reads_bool (b : Bool) : Reads Value.asBool? (.bool b) b := by
  rintro _ ⟨⟩
  rfl

theorem reads_int16 (n : Int16) : Reads Value.asInt16? (.int n.toInt) n := by
  rintro _ ⟨⟩
  exact Value.asInt16?_toInt n

theorem reads_int32 (n : Int32) : Reads Value.asInt32? (.int n.toInt) n := by
  rintro _ ⟨⟩
  exact Value.asInt32?_toInt n

theorem reads_relationKind (format : Format) (k : RelationKind) :
    Reads (RelationKind.ofValue? format) k.toValue k := by
  rintro _ ⟨⟩
  cases k <;> rfl

theorem reads_fieldKind (k : FieldKind) : Reads FieldKind.ofValue? k.toValue k := by
  rintro _ ⟨⟩
  cases k <;> rfl

theorem reads_ofText? (text : Option String) :
    Reads (Value.nullable? Value.asText?) (.ofText? text) text := by
  cases text <;> rintro _ ⟨⟩ <;> rfl

theorem reads_ofInt32? (n : Option Int32) :
    Reads (Value.nullable? Value.asInt32?) ((n.map fun n => Value.int n.toInt).getD .null) n := by
  cases n with
  | none =>
    rintro _ ⟨⟩
    rfl
  | some n =>
    rintro _ ⟨⟩
    exact congrArg (Option.map some) (reads_int32 n _ (.same _))

theorem mapM_loosened {item : Value → Option α} {write : α → Value} {xs : List α}
    {ws : List Value} (h : ∀ a ∈ xs, Reads item (write a) a)
    (hws : List.Forall₂ Value.Loosens (xs.map write) ws) : ws.mapM item = some xs := by
  induction xs generalizing ws with
  | nil =>
    cases hws
    rfl
  | cons a xs ih =>
    rw [List.forall_mem_cons] at h
    obtain ⟨w, ws, hw, hrest, rfl⟩ := List.forall₂_cons_left_iff.mp hws
    rw [List.mapM_cons, h.1 w hw, ih h.2 hrest]
    rfl

theorem reads_list {item : Value → Option α} {write : α → Value} {xs : List α}
    (h : ∀ a ∈ xs, Reads item (write a) a) :
    Reads (Value.asList? item) (.list (xs.map write)) xs := by
  intro w hw
  obtain ⟨ws, rfl, hws⟩ := hw.of_list
  exact mapM_loosened h hws

theorem reads_ofTexts (xs : List String) :
    Reads (Value.asList? Value.asText?) (.ofTexts xs) xs :=
  reads_list fun s _ => reads_text s

variable {fs gs : Fields} {v : Value} {item : Value → Option α}

theorem Fields.Found.required {a : α} (h : Fields.Found fs gs) (key : String)
    (hread : Reads item v a) (hnull : v ≠ .null) (hmem : (key, v) ∈ fs) :
    gs.required key item = some a := by
  obtain ⟨w, hw, hlookup⟩ | ⟨hv, -⟩ := h (key, v) hmem
  · rw [Fields.required, hlookup, Option.bind_some]
    exact hread w hw
  · exact absurd hv hnull

theorem Fields.Found.optional {a : Option α} (h : Fields.Found fs gs) (key : String)
    (hread : Reads (Value.nullable? item) v a) (hmem : (key, v) ∈ fs) :
    gs.optional key item = some a := by
  obtain ⟨w, hw, hlookup⟩ | ⟨hv, hlookup⟩ := h (key, v) hmem
  · rw [Fields.optional, hlookup]
    exact hread w hw
  · rw [Fields.optional, hlookup]
    rw [show v = .null from hv] at hread
    exact hread .null (.same .null)

end Readers

end Document

section Columns

theorem RawColumn.ofFields?_found (format : Format) (c : RawColumn) {gs : Fields}
    (h : Fields.Found c.toFields gs) : RawColumn.ofFields? format gs = some c := by
  simp only [RawColumn.ofFields?,
    h.required "name" (reads_text c.name) nofun (by simp [toFields]),
    h.required "table_name" (reads_text c.tableName) nofun (by simp [toFields]),
    h.required "table_kind" (reads_relationKind format c.tableKind) nofun (by simp [toFields]),
    h.required "schema_name" (reads_text c.schemaName) nofun (by simp [toFields]),
    h.required "data_type" (reads_text c.dataType) nofun (by simp [toFields]),
    h.required "is_nullable" (reads_bool c.isNullable) nofun (by simp [toFields]),
    h.optional "default" (reads_ofText? c.default) (by simp [toFields]),
    h.optional "max_length" (reads_ofInt32? c.maxLength) (by simp [toFields]),
    h.optional "description" (reads_ofText? c.description) (by simp [toFields]),
    h.required "check_constraints" (reads_ofTexts c.checkConstraints) nofun (by simp [toFields]),
    h.required "enum_labels" (reads_ofTexts c.enumLabels) nofun (by simp [toFields]),
    h.required "ordinal_position" (reads_int16 c.ordinalPosition) nofun (by simp [toFields])]
  rfl

theorem Column.ofFields?_found (c : Column) {gs : Fields} (h : Fields.Found c.toFields gs) :
    Column.ofFields? gs = some c := by
  -- The part that the catalog states is read from the whole record, not from one of its own.
  have hraw : Fields.Found c.toRawColumn.toFields gs :=
    fun f hf => h f (List.mem_append_left _ hf)
  simp only [Column.ofFields?, RawColumn.ofFields?_found .jsonPart c.toRawColumn hraw,
    h.required "kind" (reads_fieldKind c.kind) nofun (by simp [toFields]),
    h.required "is_array" (reads_bool c.isArray) nofun (by simp [toFields]),
    h.required "is_auto_generated" (reads_bool c.isAutoGenerated) nofun (by simp [toFields]),
    h.required "is_writable" (reads_bool c.isWritable) nofun (by simp [toFields]),
    h.required "is_optional" (reads_bool c.isOptional) nofun (by simp [toFields]),
    h.required "enum_values" (reads_ofTexts c.enumValues) nofun (by simp [toFields])]
  rfl

/-- No two fields of a column share a name, whether stated or derived. -/
theorem Column.nodup_toFields (c : Column) : (c.toFields.map Prod.fst).Nodup := by
  simp [Column.toFields, RawColumn.toFields]

theorem Column.reads (c : Column) : Reads Column.ofValue? c.toValue c := by
  intro w hw
  obtain ⟨gs, rfl, hfound⟩ := hw.found c.nodup_toFields
  exact c.ofFields?_found hfound

end Columns

section Schemas

theorem Table.reads (t : Table) : Reads Table.ofValue? t.toValue t := by
  intro w hw
  have hnodup : (t.toFields.map Prod.fst).Nodup := by simp [Table.toFields]
  obtain ⟨gs, rfl, h⟩ := hw.found hnodup
  have hcolumns : Reads (Value.asList? Column.ofValue?) (.list (t.columns.map Column.toValue))
      t.columns := reads_list fun c _ => c.reads
  simp only [Table.ofValue?, Value.allFields?, Option.bind_some, Table.ofFields?,
    h.required "schema_name" (reads_text t.schemaName) nofun (by simp [Table.toFields]),
    h.required "name" (reads_text t.name) nofun (by simp [Table.toFields]),
    h.required "kind" (reads_relationKind .json t.kind) nofun (by simp [Table.toFields]),
    h.required "columns" hcolumns nofun (by simp [Table.toFields])]
  rfl

theorem Schema.reads (s : Schema) : Reads Schema.ofValue? s.toValue s := by
  intro w hw
  obtain ⟨gs, rfl, h⟩ := hw.found (by simp)
  have htables : Reads (Value.asList? Table.ofValue?) (.list (s.tables.map Table.toValue))
      s.tables := reads_list fun t _ => t.reads
  simp only [Schema.ofValue?, Value.allFields?, Option.bind_eq_bind, Option.bind_some,
    h.required "name" (reads_text s.name) nofun (by simp),
    h.required "tables" htables nofun (by simp)]
  rfl

end Schemas

section Texts

theorem plain_ofTexts (depth : Nat) (xs : List String) : Json.Plain (depth + 1) (.ofTexts xs) := by
  refine .list fun v hv => ?_
  obtain ⟨s, -, rfl⟩ := List.mem_map.mp hv
  exact .text s

theorem plain_ofText? (depth : Nat) (text : Option String) : Json.Plain depth (.ofText? text) := by
  cases text with
  | none => exact .null
  | some s => exact .text s

theorem plain_int16 (depth : Nat) (n : Int16) : Json.Plain depth (.int n.toInt) := by
  have hlow := n.le_toInt
  have hhigh := n.toInt_lt
  exact Json.plain_int (by omega)

theorem plain_int32 (depth : Nat) (n : Int32) : Json.Plain depth (.int n.toInt) := by
  have hlow := n.le_toInt
  have hhigh := n.toInt_lt
  exact Json.plain_int (by omega)

theorem plain_ofInt32? (depth : Nat) (n : Option Int32) :
    Json.Plain depth ((n.map fun n => Value.int n.toInt).getD .null) := by
  cases n with
  | none => exact .null
  | some n => exact plain_int32 depth n

theorem Column.plain_toValue (depth : Nat) (c : Column) : Json.Plain (depth + 2) c.toValue := by
  refine .record ?_
  simp only [Column.toFields, RawColumn.toFields, List.cons_append, List.nil_append,
    List.forall_mem_cons]
  exact ⟨.text _, .text _, .text _, .text _, .text _, .bool _, plain_ofText? _ _,
    plain_ofInt32? _ _, plain_ofText? _ _, plain_ofTexts _ _, plain_ofTexts _ _, plain_int16 _ _,
    .text _, .bool _, .bool _, .bool _, .bool _, plain_ofTexts _ _, nofun⟩

theorem Table.plain_toValue (depth : Nat) (t : Table) : Json.Plain (depth + 4) t.toValue := by
  refine .record ?_
  simp only [Table.toFields, List.forall_mem_cons]
  refine ⟨.text _, .text _, .text _, .list fun v hv => ?_, nofun⟩
  obtain ⟨c, -, rfl⟩ := List.mem_map.mp hv
  exact c.plain_toValue depth

theorem Schema.plain_toValue (depth : Nat) (s : Schema) : Json.Plain (depth + 6) s.toValue := by
  refine .record ?_
  simp only [List.forall_mem_cons]
  refine ⟨.text _, .list fun v hv => ?_, nofun⟩
  obtain ⟨t, -, rfl⟩ := List.mem_map.mp hv
  exact t.plain_toValue depth

theorem Schema.columnValues_toValue (s : Schema) :
    Schema.columnValues s.toValue = s.tables.flatMap fun t => t.columns.map Column.toValue := by
  have htables : s.toValue.itemsAt Schema.keys "tables" = s.tables.map Table.toValue := rfl
  rw [columnValues, htables, List.flatMap_map]
  rfl

/-- A document that holds a schema is read from a text if its columns are within the limits. -/
theorem Schema.ofJson?_eq_some_iff {s : Schema} {v : Value} {text : String}
    (hv : Schema.ofValue? v = some s) (htext : Json.Holds text v) :
    Schema.ofJson? text = some s ↔
      ∀ c ∈ Schema.columnValues v, Json.withinLimits 123 c = true := by
  rw [← List.all_eq_true, Schema.ofJson?, Json.tree?_of_holds htext]
  simp [hv, Json.nestingLimit]

/-- A schema is what its JSON holds, on one line or indented, also where unknown fields are put in
and fields that are null are left out, as long as columns nest at most 123 deep and their numbers
are in range. No two fields of a column have one name. -/
theorem Schema.ofJson?_loosened (s : Schema) :
    Schema.ofJson? s.toValue.compact = some s ∧ Schema.ofJson? (s.toValue.pretty 0) = some s ∧
      (∀ v, s.toValue.Loosens v → Schema.ofValue? v = some s ∧
        ∀ text, Json.Holds text v → (Schema.ofJson? text = some s ↔
          ∀ c ∈ Schema.columnValues v, Json.withinLimits 123 c = true)) ∧
      ∀ t ∈ s.tables, ∀ c ∈ t.columns, (c.toFields.map Prod.fst).Nodup := by
  have hread {v : Value} (hv : s.toValue.Loosens v) {text : String} (htext : Json.Holds text v) :=
    Schema.ofJson?_eq_some_iff (s.reads v hv) htext
  have hcolumns : ∀ c ∈ Schema.columnValues s.toValue, Json.withinLimits 123 c = true := by
    intro v hv
    rw [s.columnValues_toValue] at hv
    obtain ⟨t, -, hv⟩ := List.mem_flatMap.1 hv
    obtain ⟨c, -, rfl⟩ := List.mem_map.1 hv
    exact (c.plain_toValue 121).withinLimits
  have hplain := s.plain_toValue 0
  refine ⟨?_, ?_, fun v hv => ⟨s.reads v hv, fun text htext => hread hv htext⟩, ?_⟩
  · exact (hread (.same _) hplain.holds_compact).2 hcolumns
  · exact (hread (.same _) (hplain.holds_pretty 0)).2 hcolumns
  · exact fun _ _ c _ => c.nodup_toFields

/-- Lists in each other, one more than `depth` of them. -/
def nestedLists : Nat → Value
  | 0 => .list []
  | depth + 1 => .list [nestedLists depth]

theorem plain_nestedLists (depth : Nat) : Json.Plain (depth + 1) (nestedLists depth) := by
  induction depth with
  | zero => exact .list nofun
  | succ depth ih => exact .list (List.forall_mem_singleton.2 ih)

/-- Every record here has an unknown field, and the column's fields that are null are left out. What
is put into the table nests deeper than a column may. -/
theorem Schema.ofJson?_loosened_orders :
    let id : Column := ⟨⟨"id", "orders", .table, "public", "int4", false, none, none, some "key",
      [], ["a"], -1⟩, .integer, false, false, true, false, []⟩
    let orders : Schema := ⟨"public", [⟨"public", "orders", .table, [id]⟩]⟩
    let columnFields : Fields := [("name", .text "id"), ("table_name", .text "orders"),
      ("table_kind", .text "table"), ("schema_name", .text "public"), ("data_type", .text "int4"),
      ("raw", .record [("name", .null)]), ("is_nullable", .bool false),
      ("description", .text "key"), ("check_constraints", .list []),
      ("enum_labels", .list [.text "a"]), ("ordinal_position", .int (-1)),
      ("kind", .text "integer"), ("is_array", .bool false), ("is_auto_generated", .bool false),
      ("is_writable", .bool true), ("is_optional", .bool false), ("enum_values", .list [])]
    let tableFields : Fields := [("rows", nestedLists 200), ("schema_name", .text "public"),
      ("name", .text "orders"), ("kind", .text "table"),
      ("columns", .list [.record columnFields])]
    let v := Value.record
      [("name", .text "public"), ("tables", .list [.record tableFields]), ("owner", .null)]
    orders.toValue.Loosens v ∧ Json.Holds (v.pretty 0) v ∧
      (∀ c ∈ Schema.columnValues v, Json.withinLimits 123 c = true) ∧
      Schema.ofJson? (v.pretty 0) = some orders := by
  intro id orders columnFields tableFields v
  have hcolumn : id.toValue.Loosens (.record columnFields) :=
    .record (.keep (.same _) (.keep (.same _) (.keep (.same _) (.keep (.same _)
      (.keep (.same _) (.add (.keep (.same _) (.drop (.drop (.keep (.same _) (.refl _)))))))))))
      (by decide)
  have htable : (Value.record _).Loosens (.record tableFields) :=
    .record (.add (.keep (.same _) (.keep (.same _) (.keep (.same _)
      (.keep (.list (.cons hcolumn .nil)) .nil))))) (by decide)
  have hv : orders.toValue.Loosens v :=
    .record (.keep (.same _) (.keep (.list (.cons htable .nil)) (.add .nil)))
      (by decide)
  have hcolumnPlain (depth : Nat) : Json.Plain (depth + 2) (.record columnFields) := by
    refine .record ?_
    simp only [columnFields, List.forall_mem_cons]
    exact ⟨.text _, .text _, .text _, .text _, .text _,
      .record (List.forall_mem_singleton.mpr .null), .bool _, .text _, .list nofun,
      .list (List.forall_mem_singleton.mpr (.text _)), plain_int16 _ (-1), .text _, .bool _,
      .bool _, .bool _, .bool _, .list nofun, nofun⟩
  have htablePlain : Json.Plain 202 (.record tableFields) := by
    refine .record ?_
    simp only [tableFields, List.forall_mem_cons]
    exact ⟨plain_nestedLists 200, .text _, .text _, .text _,
      .list (List.forall_mem_singleton.mpr (hcolumnPlain 198)), nofun⟩
  have hplain : Json.Plain 204 v := by
    refine .record ?_
    simp only [List.forall_mem_cons]
    exact ⟨.text _, .list (List.forall_mem_singleton.mpr htablePlain), .null, nofun⟩
  have htext : Json.Holds (v.pretty 0) v := hplain.holds_pretty 0
  have hlimits : ∀ c ∈ Schema.columnValues v, Json.withinLimits 123 c = true :=
    List.forall_mem_singleton.2 (hcolumnPlain 121).withinLimits
  have hread := ((Schema.ofJson?_loosened orders).2.2.1 v hv).2 _ htext
  exact ⟨hv, htext, hlimits, hread.2 hlimits⟩

/-- A schema is not read where a column has an unknown field that nests too deep, or one with a
number out of range. -/
theorem Schema.ofJson?_out_of_limits :
    let id : Column := ⟨⟨"id", "orders", .table, "public", "int4", false, none, none, none,
      [], [], 1⟩, .integer, false, false, true, false, []⟩
    let orders : Schema := ⟨"public", [⟨"public", "orders", .table, [id]⟩]⟩
    let column (extra : Value) : Value := .record (("extra", extra) :: id.toFields)
    let table (extra : Value) : Value := .record [("schema_name", .text "public"),
      ("name", .text "orders"), ("kind", .text "table"), ("columns", .list [column extra])]
    let document (extra : Value) : Value :=
      .record [("name", .text "public"), ("tables", .list [table extra])]
    let unread (extra : Value) : Prop :=
      orders.toValue.Loosens (document extra) ∧
        Json.Holds (document extra).compact (document extra) ∧
        Schema.ofValue? (document extra) = some orders ∧
        Schema.ofJson? (document extra).compact = none
    unread (nestedLists 122) ∧ unread (.decimal "1e999") := by
  intro id orders column table document unread
  have hunread {extra : Value} (hextra : Json.Writes extra extra.compact.toList)
      (hlimits : Json.withinLimits 123 (column extra) = false) : unread extra := by
    have hcolumn : id.toValue.Loosens (column extra) := .record (.add (.refl _)) (by decide)
    have htable : (Value.record _).Loosens (table extra) :=
      .record (.keep (.same _) (.keep (.same _) (.keep (.same _)
        (.keep (.list (.cons hcolumn .nil)) .nil)))) nofun
    have hv : orders.toValue.Loosens (document extra) :=
      .record (.keep (.same _) (.keep (.list (.cons htable .nil)) .nil)) nofun
    have hfields : ∀ f ∈ id.toFields, Json.Writes f.2 f.2.compact.toList := by
      cases id.plain_toValue 0 with
      | record h => exact fun f hf => (h f hf).writes_compact
    have hcolumnText : Json.Writes (column extra) (column extra).compact.toList :=
      Json.writes_compact_record (List.forall_mem_cons.2 ⟨hextra, hfields⟩)
    have htableText : Json.Writes (table extra) (table extra).compact.toList := by
      refine Json.writes_compact_record ?_
      simp only [List.forall_mem_cons]
      exact ⟨.text _, .text _, .text _,
        Json.writes_compact_list (List.forall_mem_singleton.2 hcolumnText), nofun⟩
    have htext : Json.Holds (document extra).compact (document extra) := by
      refine Json.holds_of_writes (Json.writes_compact_record ?_)
      simp only [List.forall_mem_cons]
      exact ⟨.text _, Json.writes_compact_list (List.forall_mem_singleton.2 htableText), nofun⟩
    have hread : Schema.ofValue? (document extra) = some orders := orders.reads _ hv
    refine ⟨hv, htext, hread, ?_⟩
    have hcolumns : Schema.columnValues (document extra) = [column extra] := rfl
    rw [Schema.ofJson?, Json.tree?_of_holds htext, Option.bind_eq_bind, Option.bind_some, hcolumns,
      List.all_cons, Json.nestingLimit, hlimits]
    rfl
  have hnumber : Json.Writes (.decimal "1e999") (Value.decimal "1e999").compact.toList :=
    Json.writes_word (by decide) rfl
  exact ⟨hunread (plain_nestedLists 122).writes_compact (by decide +kernel),
    hunread hnumber (by decide +kernel)⟩

end Texts

end ZodCatalog
