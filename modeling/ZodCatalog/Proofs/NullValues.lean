import ZodCatalog.Proofs.Evaluations

/-! Null in the columns that allow it. Reading takes it for undefined, or for the empty array where
that is the default, and leaves all other results as they are; writing calls no method on it. -/

namespace ZodCatalog
open ModuleText

namespace Zod

/-- A value, or another one in place of an absent one. -/
def Value.getD {α : Type} (v d : Value α) : Value α :=
  match v with
  | absent _ => d
  | array _ => v
  | other _ => v

section Calls

variable {α : Type} (h : Methods α)

theorem call_orUndefined (v : Value α) :
    Function.call h .orUndefined v = ⟨[], .ok (v.getD .undefined)⟩ := by
  cases v <;> rfl

theorem call_orEmptyArray (v : Value α) :
    Function.call h .orEmptyArray v = ⟨[], .ok (v.getD (.array []))⟩ := by
  cases v <;> rfl

/-- Only undefined is replaced here, so that null can be written. -/
theorem call_definedOrEmptyArray_null :
    Function.call h .definedOrEmptyArray .null = ⟨[], .ok .null⟩ := rfl

/-- A guarded conversion gives null back without a call. -/
theorem call_guarded_null (c : Conversion) :
    Function.call h (.convert c true) .null = ⟨[], .ok .null⟩ := by
  cases c <;> rfl

end Calls

/-- What null is read as. -/
def nullReading {α : Type} (o : RenderOptions) (c : Column) : Value α :=
  if defaultsToEmptyArray o c then .array [] else .undefined

/-- What null is written as. -/
def nullWriting {α : Type} (o : RenderOptions) (c : Column) : Value α :=
  if defaultsToEmptyArray o c then .null else .undefined

section Columns

variable {α : Type} {h : Methods α} {parse : Expr → Value α → Calling α (Value α)}
  (hparse : Lawful h parse) (o : RenderOptions) {b : BoundColumn}
  (hnull : b.column.isNullable = true) (spelling : Scalar → String)

include hparse hnull

/-- A nullable column is read as what its schema gives, with nothing absent but undefined. -/
theorem parse_readExpr (v : Value α) : parse ((readExpr o b).spelled spelling) v =
    parse ((Expr.nullable (readBase b)).spelled spelling) v >>=
      fun r => ⟨[], .ok (r.getD (nullReading o b.column))⟩ := by
  have hstep {f : Function} {d : Value α} (hf : f.arrow?.isSome = true)
      (hcall : ∀ r, f.call h r = ⟨[], .ok (r.getD d)⟩) :
      parse ((Expr.transform (.nullable (readBase b)) f).spelled spelling) v =
        parse ((Expr.nullable (readBase b)).spelled spelling) v >>=
          fun r => ⟨[], .ok (r.getD d)⟩ := by
    rw [hparse.transform_spelled hf, funext hcall]
  unfold readExpr nullReading
  rw [if_pos hnull]
  cases defaultsToEmptyArray o b.column with
  | false => exact hstep rfl (call_orUndefined h)
  | true => exact hstep rfl (call_orEmptyArray h)

theorem read_null : parse ((readExpr o b).spelled spelling) .null =
    ⟨[], .ok (nullReading o b.column)⟩ := by
  have hinner : parse ((Expr.nullable (readBase b)).spelled spelling) .null = ⟨[], .ok .null⟩ :=
    hparse.nullable_null _
  rw [parse_readExpr hparse o hnull, hinner]
  rfl

theorem read_value {v r : Value α} {calls : List (MethodCall α)} (hv : v ≠ .null)
    (hr : ∀ n, r ≠ .absent n) (hbase : parse ((readBase b).spelled spelling) v = ⟨calls, .ok r⟩) :
    parse ((readExpr o b).spelled spelling) v = ⟨calls, .ok r⟩ := by
  have hinner : parse ((Expr.nullable (readBase b)).spelled spelling) v = ⟨calls, .ok r⟩ :=
    (hparse.nullable_of_ne _ hv).trans hbase
  have hkept : r.getD (nullReading o b.column) = r := by
    cases r with
    | absent n => exact absurd rfl (hr n)
    | array items => rfl
    | other a => rfl
  rw [parse_readExpr hparse o hnull, hinner, Traced.bind_of_ok rfl, hkept, List.append_nil]

theorem read_ne_null (v : Value α) :
    (parse ((readExpr o b).spelled spelling) v).outcome ≠ .ok .null := by
  rw [parse_readExpr hparse o hnull]
  cases hinner : (parse ((Expr.nullable (readBase b)).spelled spelling) v).outcome with
  | error e =>
    rw [Traced.bind_of_error hinner]
    exact nofun
  | ok r =>
    rw [Traced.bind_of_ok hinner]
    unfold nullReading
    cases r with
    | absent n => cases defaultsToEmptyArray o b.column <;> exact nofun
    | array items => exact nofun
    | other a => exact nofun

/-- What is converted has passed the null wrapper, and the conversion is guarded. -/
theorem converted_null :
    parse ((convertedExpr o b).spelled spelling) .null = ⟨[], .ok .null⟩ := by
  have hinner : parse ((nullableIf true (writeBase o b)).spelled spelling) .null =
      ⟨[], .ok .null⟩ := hparse.nullable_null _
  unfold convertedExpr
  rw [hnull]
  split
  · next c _ _ =>
    have hstep := hparse.transform_spelled (f := .convert c true) rfl spelling
      (nullableIf true (writeBase o b)) .null
    rwa [hinner, Traced.bind_of_ok rfl, call_guarded_null] at hstep
  · exact hinner

theorem coalesced_null : parse ((coalescedExpr o b).spelled spelling) .null =
    ⟨[], .ok (nullWriting o b.column)⟩ := by
  have hconverted := converted_null hparse o hnull spelling
  unfold coalescedExpr nullWriting
  rw [if_pos (by rw [hnull, Bool.true_or])]
  have hstep {f : Function} (hf : f.arrow?.isSome = true) :
      parse ((Expr.transform (convertedExpr o b) f).spelled spelling) .null = f.call h .null := by
    rw [hparse.transform_spelled hf, hconverted]
    rfl
  cases defaultsToEmptyArray o b.column with
  | false => exact (hstep rfl).trans (call_orUndefined h .null)
  | true => exact (hstep rfl).trans (call_definedOrEmptyArray_null h)

theorem write_null : parse ((writeExpr o b).spelled spelling) .null =
    ⟨[], .ok (nullWriting o b.column)⟩ := by
  have hcoalesced := coalesced_null hparse o hnull spelling
  unfold writeExpr
  split
  · exact (hparse.optional_of_ne _ Value.null_ne_undefined).trans hcoalesced
  · exact hcoalesced

end Columns

/-- Null is neither read nor converted. Reading a nullable column gives the default for it and what
its schema gives for other values; writing it calls nothing, and gives null only where undefined
becomes the empty array. So it is for the trees that the texts of every dialect read as. -/
theorem null_neither_read_nor_converted {α : Type} {h : Methods α}
    {parse : Expr → Value α → Calling α (Value α)} (hparse : Lawful h parse) (o : RenderOptions)
    (b : BoundColumn) (hnull : b.column.isNullable = true) (d : Dialect) :
    let tree (e : Expr) : Expr := e.spelled (Scalar.text d.profile)
    let emptied : Bool := o.defaultEmptyArray && b.column.isArray
    parse (tree (readExpr o b)) .null =
      ⟨[], .ok (if emptied then .array [] else .undefined)⟩ ∧
    (∀ v r calls, v ≠ .null → r ≠ .null → r ≠ .undefined →
      parse (tree (readBase b)) v = ⟨calls, .ok r⟩ →
      parse (tree (readExpr o b)) v = ⟨calls, .ok r⟩) ∧
    (∀ v, (parse (tree (readExpr o b)) v).outcome ≠ .ok .null) ∧
    parse (tree (writeExpr o b)) .null =
      ⟨[], .ok (if emptied then .null else .undefined)⟩ ∧
    ((∀ name, b.enumConstant = some name → isIdentifier name.toList = true) →
      (∀ name, b.jsonSchemaName = some name → isIdentifier name.toList = true) →
      ∀ e ∈ [readExpr o b, writeExpr o b],
        read d.profile.composition (e.text d.profile) = some (tree e)) := by
  intro tree emptied
  refine ⟨read_null hparse o hnull _, ?_, read_ne_null hparse o hnull _,
    write_null hparse o hnull _, ?_⟩
  · intro v r calls hv hrnull hrundefined hbase
    refine read_value hparse o hnull _ hv (fun n => ?_) hbase
    cases n with
    | undefined => exact hrundefined
    | null => exact hrnull
  · intro henum hjson e he
    have hreadable : e.Readable := by
      rcases List.mem_pair.1 he with rfl | rfl
      · exact readable_readExpr o henum hjson
      · exact readable_writeExpr o henum hjson
    exact (written_text d hreadable).reads.read_eq

/-- An array of dates that is left out, given as null, and given with a date in it. -/
theorem null_neither_read_nor_converted_dates :
    let methods : Methods String :=
      ⟨fun day => .ok (.other (day ++ "T00:00Z")), fun _ => .error .refused⟩
    let leaf (_ : Expr) : Value String → Calling String (Value String)
      | .array items => ⟨[], .ok (.array items)⟩
      | _ => ⟨[], .error .refused⟩
    let parse := Expr.evaluate methods leaf
    let o : RenderOptions := { stringifyDates := true, defaultEmptyArray := true }
    let raw : RawColumn :=
      ⟨"holidays", "users", .table, "public", "date[]", true, none, none, none, [], [], 1⟩
    let b : BoundColumn := {
      column := { raw with
        kind := .date, isArray := true, isAutoGenerated := false, isWritable := true
        isOptional := true, enumValues := [] }
      enumConstant := none
      jsonSchemaName := none }
    let tree (e : Expr) : Expr := e.spelled (Scalar.text Dialect.zod4.profile)
    let days : Value String := .array [.other "2024-05-01"]
    parse (tree (readExpr o b)) .null = ⟨[], .ok (.array [])⟩ ∧
    parse (tree (readExpr o b)) days = ⟨[], .ok days⟩ ∧
    parse (tree (writeExpr o b)) .null = ⟨[], .ok .null⟩ ∧
    parse (tree (writeExpr o b)) .undefined = ⟨[], .ok .undefined⟩ ∧
    parse (tree (writeExpr o b)) days =
      ⟨[.map days, .toISOString (.other "2024-05-01")],
        .ok (.array [.other "2024-05-01T00:00Z"])⟩ ∧
    (writeExpr o b).text Dialect.zod4.profile = "z.array(z.date()).nullable()" ++
      ".transform((values) => (values === null ? values : " ++
      "values.map((value) => value.toISOString())))" ++
      ".transform((value) => (value === undefined ? [] : value)).optional()" := by
  intro methods leaf parse o raw b tree days
  have hparse : Lawful methods parse := lawful_evaluate methods leaf
  have hnull : b.column.isNullable = true := rfl
  obtain ⟨hreadNull, hread, -, hwriteNull, -⟩ :=
    null_neither_read_nor_converted hparse o b hnull .zod4
  have hbase : parse (tree (readBase b)) days = ⟨[], .ok days⟩ := rfl
  refine ⟨hreadNull, hread days days [] nofun nofun nofun hbase, hwriteNull, rfl, ?_,
    by decide +kernel⟩
  rfl

end Zod
end ZodCatalog
