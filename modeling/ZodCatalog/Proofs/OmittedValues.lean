import ZodCatalog.Proofs.Evaluations

/-! Array columns that are left out of a record that is written. The function that puts the empty
array in place of undefined stands inside of the optional wrapper, which lets undefined through
before anything inside of it runs. -/

namespace ZodCatalog
open ModuleText

namespace Zod

/-- What a record holds for a key; a key that is missing stands for undefined. -/
def Value.field {α : Type} (record : List (String × Value α)) (key : String) : Value α :=
  (record.lookup key).getD .undefined

theorem Value.field_of_missing {α : Type} {record : List (String × Value α)} {key : String}
    (h : key ∉ record.map Prod.fst) : Value.field record key = .undefined := by
  have hnone : record.lookup key = none := by
    refine List.lookup_eq_none_iff.2 fun e he => ?_
    have hne : key ≠ e.1 := fun heq => h (heq ▸ List.mem_map_of_mem he)
    simpa using hne
  rw [Value.field, hnone, Option.getD_none]

/-- What is put in place of an absent value before the optional wrapper. -/
theorem coalescedExpr_of_emptied {o : RenderOptions} {b : BoundColumn}
    (hoptional : b.column.isOptional = true) (harray : b.column.isArray = true)
    (hdefault : o.defaultEmptyArray = true) :
    coalescedExpr o b = .transform (convertedExpr o b) .definedOrEmptyArray := by
  have habsent : (b.column.isNullable || b.column.isOptional) = true := by
    rw [hoptional, Bool.or_true]
  have hemptied : defaultsToEmptyArray o b.column = true := by
    rw [defaultsToEmptyArray, hdefault, harray, Bool.and_self]
  unfold coalescedExpr
  simp only [habsent, hemptied, if_true]

theorem writeExpr_of_optional {o : RenderOptions} {b : BoundColumn}
    (h : b.column.isOptional = true) : writeExpr o b = .optional (coalescedExpr o b) :=
  if_pos h

section Columns

variable {α : Type} {h : Methods α} {parse : Expr → Value α → Calling α (Value α)}
  (hparse : Lawful h parse)
  (hrefused : ∀ e, parse (.array e) .undefined = ⟨[], .error .refused⟩)
  (o : RenderOptions) {b : BoundColumn} (harray : b.column.isArray = true)
  (spelling : Scalar → String)

include hrefused harray in
theorem writeBase_undefined : parse ((writeBase o b).spelled spelling) .undefined =
    ⟨[], .error .refused⟩ := by
  unfold writeBase
  rw [harray]
  apply hrefused

include hparse hrefused harray

/-- Neither the null wrapper nor a conversion comes between an array and undefined. -/
theorem converted_undefined : parse ((convertedExpr o b).spelled spelling) .undefined =
    ⟨[], .error .refused⟩ := by
  have hbase := writeBase_undefined hrefused o harray spelling
  have hinner : parse ((nullableIf b.column.isNullable (writeBase o b)).spelled spelling)
      .undefined = ⟨[], .error .refused⟩ := by
    cases b.column.isNullable with
    | false => exact hbase
    | true => exact (hparse.nullable_of_ne _ Value.null_ne_undefined.symm).trans hbase
  unfold convertedExpr
  split
  · next c _ _ =>
    have hsome : (Function.convert c b.column.isNullable).arrow?.isSome = true := by
      cases b.column.isNullable <;> rfl
    rw [hparse.transform_spelled hsome, hinner]
    rfl
  · exact hinner

/-- The function for undefined is not reached, as the schema in front of it refuses. -/
theorem emptied_undefined :
    parse ((Expr.transform (convertedExpr o b) .definedOrEmptyArray).spelled spelling)
      .undefined = ⟨[], .error .refused⟩ := by
  have hconverted := converted_undefined hparse hrefused o harray spelling
  rw [hparse.transform_spelled rfl, hconverted]
  rfl

omit hrefused harray in
/-- Behind the optional wrapper the function gets undefined and gives the empty array. -/
theorem emptied_outside (e : Expr) :
    parse ((Expr.transform (.optional e) .definedOrEmptyArray).spelled spelling) .undefined =
      ⟨[], .ok (.array [])⟩ := by
  have hinner : parse ((Expr.optional e).spelled spelling) .undefined = ⟨[], .ok .undefined⟩ :=
    hparse.optional_undefined _
  rw [hparse.transform_spelled rfl, hinner]
  rfl

end Columns

/-- An optional array that is left out is written as undefined, in every dialect and also where the
empty array is the default. The function for that default is there, but what stands in front of it
refuses undefined, and the wrapper around it does not run it; with these two exchanged the same
column would give the empty array. -/
theorem omitted_array_undefined {α : Type} {h : Methods α}
    {parse : Expr → Value α → Calling α (Value α)} (hparse : Lawful h parse)
    (hrefused : ∀ e, parse (.array e) .undefined = ⟨[], .error .refused⟩) (o : RenderOptions)
    (hdefault : o.defaultEmptyArray = true) (b : BoundColumn)
    (harray : b.column.isArray = true) (hoptional : b.column.isOptional = true)
    (record : List (String × Value α)) (key : String) (hmissing : key ∉ record.map Prod.fst)
    (d : Dialect) :
    let tree (e : Expr) : Expr := e.spelled (Scalar.text d.profile)
    let omitted := Value.field record key
    parse (tree (writeExpr o b)) omitted = ⟨[], .ok .undefined⟩ ∧
    (∃ inner, writeExpr o b = .optional (.transform inner .definedOrEmptyArray) ∧
      parse (tree (.transform inner .definedOrEmptyArray)) omitted = ⟨[], .error .refused⟩ ∧
      parse (tree (.transform (.optional inner) .definedOrEmptyArray)) omitted =
        ⟨[], .ok (.array [])⟩) ∧
    ((∀ name, b.enumConstant = some name → isIdentifier name.toList = true) →
      (∀ name, b.jsonSchemaName = some name → isIdentifier name.toList = true) →
      read d.profile.composition ((writeExpr o b).text d.profile) =
        some (tree (writeExpr o b))) := by
  intro tree omitted
  have homitted : omitted = .undefined := Value.field_of_missing hmissing
  have hwritten :
      writeExpr o b = .optional (.transform (convertedExpr o b) .definedOrEmptyArray) := by
    rw [writeExpr_of_optional hoptional, coalescedExpr_of_emptied hoptional harray hdefault]
  rw [homitted]
  refine ⟨?_, ⟨convertedExpr o b, hwritten, ?_, ?_⟩, fun henum hjson => ?_⟩
  · rw [hwritten]
    exact hparse.optional_undefined _
  · exact emptied_undefined hparse hrefused o harray _
  · exact emptied_outside hparse _ _
  · exact (written_text d (readable_writeExpr o henum hjson)).reads.read_eq

/-- An array of dates with a conversion, left out of a record that has another column. -/
theorem omitted_array_undefined_dates :
    let methods : Methods String :=
      ⟨fun day => .ok (.other (day ++ "T00:00Z")), fun _ => .error .refused⟩
    let leaf (_ : Expr) : Value String → Calling String (Value String)
      | .array items => ⟨[], .ok (.array items)⟩
      | _ => ⟨[], .error .refused⟩
    let parse := Expr.evaluate methods leaf
    let o : RenderOptions := { stringifyDates := true, defaultEmptyArray := true }
    let raw : RawColumn :=
      ⟨"holidays", "users", .table, "public", "date[]", true, none, none, none, [], [], 1⟩
    let b : BoundColumn := {
      column := { raw with
        kind := .date, isArray := true, isAutoGenerated := false, isWritable := true
        isOptional := true, enumValues := [] }
      enumConstant := none
      jsonSchemaName := none }
    let tree (e : Expr) : Expr := e.spelled (Scalar.text Dialect.zod4Mini.profile)
    let record : List (String × Value String) := [("id", .other "7")]
    (∀ e, parse (.array e) .undefined = ⟨[], .error .refused⟩) ∧
      parse (tree (writeExpr o b)) (Value.field record "holidays") = ⟨[], .ok .undefined⟩ ∧
      (writeExpr o b).text Dialect.zod4Mini.profile = "z.optional(z.pipe(z.pipe(" ++
        "z.nullable(z.array(z.date())), z.transform((values) => (values === null ? values : " ++
        "values.map((value) => value.toISOString())))), " ++
        "z.transform((value) => (value === undefined ? [] : value))))" := by
  intro methods leaf parse o raw b tree record
  have hparse : Lawful methods parse := lawful_evaluate methods leaf
  have hrefused (e : Expr) : parse (.array e) .undefined = ⟨[], .error .refused⟩ := rfl
  have hmissing : "holidays" ∉ record.map Prod.fst := by decide
  obtain ⟨hundefined, -⟩ := omitted_array_undefined hparse hrefused o rfl b rfl rfl record
    "holidays" hmissing .zod4Mini
  exact ⟨hrefused, hundefined, by decide +kernel⟩

/-- The default is on and the column optional, but nothing is put in place of what is left out. -/
theorem omitted_array_not_emptied :
    let methods : Methods String := ⟨fun _ => .error .refused, fun _ => .error .refused⟩
    let leaf (_ : Expr) : Value String → Calling String (Value String)
      | .array items => ⟨[], .ok (.array items)⟩
      | _ => ⟨[], .error .refused⟩
    let parse := Expr.evaluate methods leaf
    let o : RenderOptions := { defaultEmptyArray := true }
    let raw : RawColumn :=
      ⟨"tags", "users", .table, "public", "text[]", false, some "ARRAY[]::text[]", none, none, [],
        [], 1⟩
    let b : BoundColumn := {
      column := { raw with
        kind := .string, isArray := true, isAutoGenerated := false, isWritable := true
        isOptional := true, enumValues := [] }
      enumConstant := none
      jsonSchemaName := none }
    let tree := (writeExpr o b).spelled (Scalar.text Dialect.default.profile)
    Lawful methods parse ∧ (∀ e, parse (.array e) .undefined = ⟨[], .error .refused⟩) ∧
      (writeExpr o b).text Dialect.default.profile = "z.array(z.string())" ++
        ".transform((value) => (value === undefined ? [] : value)).optional()" ∧
      (parse tree (Value.field [] "tags")).outcome ≠ .ok (.array []) := by
  intro methods leaf parse o raw b tree
  exact ⟨lawful_evaluate methods leaf, fun _ => rfl, by decide +kernel, nofun⟩

end Zod
end ZodCatalog
