import ZodCatalog.Proofs.ExpressionReadings
import ZodCatalog.Zod.Render

/-! The expressions of a column in all dialects. Their texts are put together from opposite ends, by
methods behind an expression and by calls around it, and read as one tree. -/

namespace ZodCatalog
open Check (Balanced)
open CallText ModuleText

namespace Zod

/-- A tree as it reads: schemas and functions by their texts, and no empty lists of checks. -/
def Expr.spelled (spelling : Scalar → String) : Expr → Expr
  | scalar s => verbatim (spelling s)
  | verbatim text => verbatim text
  | enum constant => enum constant
  | array e => array (e.spelled spelling)
  | checked e ks => (e.spelled spelling).withChecks ks
  | nullable e => nullable (e.spelled spelling)
  | optional e => optional (e.spelled spelling)
  | transform e f => transform (e.spelled spelling) (.verbatim f.text)
  | partialOf e => partialOf (e.spelled spelling)

/-- Expressions whose names are plain identifiers and whose functions are balanced. -/
inductive Expr.Readable : Expr → Prop
  | scalar (s : Scalar) : Readable (.scalar s)
  | verbatim {text : String} (h : isIdentifier text.toList = true) : Readable (.verbatim text)
  | enum {constant : String} (h : isIdentifier constant.toList = true) : Readable (.enum constant)
  | array {e : Expr} (h : Readable e) : Readable (.array e)
  | checked {e : Expr} (h : Readable e) (ks : List Check) : Readable (.checked e ks)
  | nullable {e : Expr} (h : Readable e) : Readable (.nullable e)
  | optional {e : Expr} (h : Readable e) : Readable (.optional e)
  | transform {e : Expr} (h : Readable e) {f : Function} (hf : Balanced f.text.toList) :
    Readable (.transform e f)
  | partialOf {e : Expr} (h : Readable e) : Readable (.partialOf e)

/-- Every expression with plain names reads, in either notation, as the tree it is. -/
theorem written_text (d : Dialect) {e : Expr} (h : e.Readable) :
    Written d.profile.composition (e.text d.profile) (e.spelled (Scalar.text d.profile)) := by
  induction h with
  | scalar s => exact .scalar d s
  | verbatim h => exact .identifier h
  | enum h =>
    rw [text_enum]
    exact .enum h
  | array _ ih =>
    rw [text_array]
    exact ih.array
  | checked _ ks ih => exact ih.checks ks
  | nullable _ ih =>
    have hwrap : readWrapper "nullable" = some .nullable := rfl
    rw [text_wrapper hwrap]
    exact ih.wrapper hwrap
  | optional _ ih =>
    have hwrap : readWrapper "optional" = some .optional := rfl
    rw [text_wrapper hwrap]
    exact ih.wrapper hwrap
  | transform _ hf ih => exact ih.transform hf
  | partialOf _ ih =>
    have hwrap : readWrapper "partial" = some .partialOf := rfl
    rw [text_wrapper hwrap]
    exact ih.wrapper hwrap

/-- Wrappers are not calls in a chain, and not methods among nested calls. -/
example : read .chained "z.array(z.string().trim()).nullable()" =
      some (.nullable (.array (.checked (.verbatim "z.string()") [.trim]))) ∧
    read .functional "z.array(z.string().trim()).nullable()" = none ∧
    read .chained "z.nullable(z.string())" = none := by decide +kernel

/-- How the older dialects spell a schema of the newer ones. -/
def classicSpelling (text : String) : String :=
  if text = "z.email()" then "z.string().email()"
  else if text = "z.url()" then "z.string().url()"
  else if text = "z.uuid()" then "z.string().uuid()"
  else if text = "z.int()" then "z.number().int()"
  else if text = "z.json()" then "z.any()"
  else text

/-- The same tree over schemas that are spelled otherwise. -/
def Expr.respelled (f : String → String) : Expr → Expr
  | scalar s => scalar s
  | verbatim text => verbatim (f text)
  | enum constant => enum constant
  | array e => array (e.respelled f)
  | checked e ks => checked (e.respelled f) ks
  | nullable e => nullable (e.respelled f)
  | optional e => optional (e.respelled f)
  | transform e g => transform (e.respelled f) g
  | partialOf e => partialOf (e.respelled f)

theorem respelled_withChecks (f : String → String) (e : Expr) (ks : List Check) :
    (e.withChecks ks).respelled f = (e.respelled f).withChecks ks := by
  cases ks with
  | nil => rfl
  | cons k ks => cases e <;> rfl

theorem classicSpelling_text (s : Scalar) :
    classicSpelling (s.text .topLevel) = s.text .classic := by
  cases s <;>
    simp [classicSpelling, Scalar.text, DialectProfile.topLevel, DialectProfile.classic]

/-- No name is mistaken for a schema of the library, which ends in parentheses. -/
theorem classicSpelling_identifier {s : String} (h : isIdentifier s.toList = true) :
    classicSpelling s = s := by
  have hne (t : String) (ht : '(' ∈ t.toList) : s ≠ t := by
    rintro rfl
    have hpart := forall_isIdentifierPart h '(' ht
    contradiction
  unfold classicSpelling
  rw [if_neg (hne _ (by decide)), if_neg (hne _ (by decide)), if_neg (hne _ (by decide)),
    if_neg (hne _ (by decide)), if_neg (hne _ (by decide))]

theorem spelled_classic {e : Expr} (h : e.Readable) : e.spelled (Scalar.text .classic) =
    (e.spelled (Scalar.text .topLevel)).respelled classicSpelling := by
  induction h with
  | scalar s => exact congrArg Expr.verbatim (classicSpelling_text s).symm
  | verbatim h => exact congrArg Expr.verbatim (classicSpelling_identifier h).symm
  | enum h => rfl
  | array _ ih => exact congrArg Expr.array ih
  | checked _ ks ih =>
    rw [Expr.spelled, ih, Expr.spelled, respelled_withChecks]
  | nullable _ ih => exact congrArg Expr.nullable ih
  | optional _ ih => exact congrArg Expr.optional ih
  | transform _ hf ih => exact congrArg (Expr.transform · _) ih
  | partialOf _ ih => exact congrArg Expr.partialOf ih

theorem balanced_function {f : Function} (h : ∀ text, f ≠ .verbatim text) :
    Balanced f.text.toList := by
  cases f with
  | verbatim text => exact absurd rfl (h text)
  | convert c guarded => cases c <;> cases guarded <;> exact .of_settles (by decide +kernel)
  | _ => exact .of_settles (by decide +kernel)

section Columns

variable {b : BoundColumn} (o : RenderOptions)
  (henum : ∀ name, b.enumConstant = some name → isIdentifier name.toList = true)
  (hjson : ∀ name, b.jsonSchemaName = some name → isIdentifier name.toList = true)

theorem readable_arrayIf {e : Expr} (isArray : Bool) (h : e.Readable) :
    (arrayIf isArray e).Readable := by
  cases isArray with
  | true => exact .array h
  | false => exact h

include hjson in
theorem readable_baseExpr (dates : Scalar) : (baseExpr dates b).Readable := by
  unfold baseExpr
  split
  case h_7 =>
    split
    · next name hname => exact .verbatim (hjson name hname)
    · exact .scalar _
  all_goals exact .scalar _

include henum in
theorem isIdentifier_of_enumReference {constant : String} (h : enumReference b = some constant) :
    isIdentifier constant.toList = true :=
  henum constant (Option.ite_none_right_eq_some.1 h).2

include henum hjson

theorem readable_readExpr : (readExpr o b).Readable := by
  have hbase : (readBase b).Readable := by
    apply readable_arrayIf
    split
    · next constant h => exact .enum (isIdentifier_of_enumReference henum h)
    · exact readable_baseExpr hjson _
  unfold readExpr
  split
  · refine .transform (.nullable hbase) (balanced_function fun text => ?_)
    split <;> simp
  · exact hbase

theorem readable_writeExpr : (writeExpr o b).Readable := by
  -- From the inside out, as the wrappers are put around the schema.
  have hbase : (writeBase o b).Readable := by
    apply readable_arrayIf
    split
    · next constant h => exact .enum (isIdentifier_of_enumReference henum h)
    · exact .checked (readable_baseExpr hjson _) _
  have hnullable : (nullableIf b.column.isNullable (writeBase o b)).Readable := by
    unfold nullableIf
    split
    · exact .nullable hbase
    · exact hbase
  have hconverted : (convertedExpr o b).Readable := by
    unfold convertedExpr
    split
    · exact .transform hnullable (balanced_function nofun)
    · exact hnullable
  have hcoalesced : (coalescedExpr o b).Readable := by
    unfold coalescedExpr
    split
    · refine .transform hconverted (balanced_function fun text => ?_)
      split <;> simp
    · exact hconverted
  unfold writeExpr
  split
  · exact .optional hcoalesced
  · exact hcoalesced

end Columns

/-- The dialects describe one schema. Read as a chain of methods and as nested calls, the texts of a
column give the same tree; the chains of the older dialects give it with the schemas that they
spell otherwise. -/
theorem dialects_agree (o : RenderOptions) (b : BoundColumn)
    (henum : ∀ name, b.enumConstant = some name → isIdentifier name.toList = true)
    (hjson : ∀ name, b.jsonSchemaName = some name → isIdentifier name.toList = true) :
    ∀ e ∈ [readExpr o b, writeExpr o b],
      read .chained (e.text Dialect.zod4.profile) = some (e.spelled (Scalar.text .topLevel)) ∧
      read .functional (e.text Dialect.zod4Mini.profile) =
        some (e.spelled (Scalar.text .topLevel)) ∧
      ∀ d ∈ [Dialect.default, .zod3],
        read .chained (e.text d.profile) =
          some ((e.spelled (Scalar.text .topLevel)).respelled classicSpelling) := by
  intro e he
  have hreadable : e.Readable := by
    rcases List.mem_pair.1 he with rfl | rfl
    · exact readable_readExpr o henum hjson
    · exact readable_writeExpr o henum hjson
  have hmini : Scalar.text .mini = Scalar.text .topLevel := by
    funext s
    cases s <;> rfl
  have hclassic := spelled_classic hreadable
  refine ⟨(written_text .zod4 hreadable).reads.read_eq, ?_, fun d hd => ?_⟩
  · rw [← hmini]
    exact (written_text .zod4Mini hreadable).reads.read_eq
  · rw [← hclassic]
    rcases List.mem_pair.1 hd with rfl | rfl
    · exact (written_text .default hreadable).reads.read_eq
    · exact (written_text .zod3 hreadable).reads.read_eq

/-- An array with checks on its elements, and a document whose schema is named as the library. -/
theorem dialects_agree_array :
    let o : RenderOptions := { stringTransforms := { trim := true } }
    let raw : RawColumn :=
      ⟨"tags", "users", .table, "public", "text[]", true, none, some 64, none, [], [], 1⟩
    let column (kind : FieldKind) (isArray : Bool) : BoundColumn := {
      column := { raw with
        kind, isArray, isAutoGenerated := false, isWritable := true, isOptional := true
        enumValues := [] }
      enumConstant := some "TAGS"
      jsonSchemaName := some "z" }
    let written := writeExpr o (column .string true)
    let document := readExpr o (column .json false)
    let coalesced : Function := .verbatim "(value) => value ?? undefined"
    let checked : Expr := .checked (.verbatim "z.string()") [.trim, .maxLength 64]
    let tree : Expr := .optional (.transform (.nullable (.array checked)) coalesced)
    written.text Dialect.zod4.profile = "z.array(z.string().trim().max(64)).nullable()" ++
      ".transform((value) => value ?? undefined).optional()" ∧
    written.text Dialect.zod4Mini.profile = "z.optional(z.pipe(z.nullable(z.array(z.string()" ++
      ".check(z.trim(), z.maxLength(64)))), z.transform((value) => value ?? undefined)))" ∧
    read .chained (written.text Dialect.zod4.profile) = some tree ∧
    read .functional (written.text Dialect.zod4Mini.profile) = some tree ∧
    read .chained (document.text Dialect.zod4.profile) =
      read .functional (document.text Dialect.zod4Mini.profile) := by
  intro o raw column written document coalesced checked tree
  have hnames (kind : FieldKind) (isArray : Bool) :
      (∀ name, (column kind isArray).enumConstant = some name → isIdentifier name.toList = true) ∧
      ∀ name, (column kind isArray).jsonSchemaName = some name →
        isIdentifier name.toList = true := by
    constructor
    · rintro name ⟨⟩
      decide
    · rintro name ⟨⟩
      decide
  have hwritten := dialects_agree o (column .string true) (hnames _ _).1 (hnames _ _).2
    written (by simp [written])
  have hdocument := dialects_agree o (column .json false) (hnames _ _).1 (hnames _ _).2
    document (by simp [document])
  have htree : written.spelled (Scalar.text .topLevel) = tree := by decide +kernel
  rw [htree] at hwritten
  exact ⟨by decide +kernel, by decide +kernel, hwritten.1, hwritten.2.1,
    hdocument.1.trans hdocument.2.1.symm⟩

end Zod
end ZodCatalog
