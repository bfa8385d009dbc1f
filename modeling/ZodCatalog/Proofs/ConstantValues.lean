import ZodCatalog.Catalog.Classification
import ZodCatalog.Proofs.DeclaredNames
import ZodCatalog.Proofs.QuotedText

/-! The constants of a module read back as source text. Reading knows nothing of how values are
escaped: it goes from the left, a backslash passes on the character after it, and the first quote
without a backslash ends a literal. So no value can end its literal, take in a separator, or add to
the list. -/

namespace ZodCatalog

namespace ModuleText
open Text Check

/-- The character that a backslash and the given one stand for. -/
def unescaped (c : Char) : Char := if c = 'n' then '\n' else c

/-- The values of literals with a comma and a space between them, from within the first of them, and
what follows the last. -/
def readWithin : List Char → Option (List (List Char) × List Char)
  | [] => none
  | '\'' :: ',' :: ' ' :: '\'' :: r => (readWithin r).map fun p => ([] :: p.1, p.2)
  | '\'' :: r => some ([[]], r)
  | '\\' :: c :: r => (readWithin r).map fun p => (pushHead (unescaped c) p.1, p.2)
  | c :: r => (readWithin r).map fun p => (pushHead c p.1, p.2)

/-- The values of one literal or more, and what follows them. -/
def readLiterals : List Char → Option (List (List Char) × List Char)
  | '\'' :: r => readWithin r
  | _ => none

theorem readWithin_escapeChar (c : Char) (s : List Char) : readWithin (escapeChar c ++ s) =
    (readWithin s).map fun p => (pushHead c p.1, p.2) := by
  by_cases hslash : c = '\\'
  · subst hslash
    rfl
  by_cases hquote : c = '\''
  · subst hquote
    rfl
  by_cases hline : c = '\n'
  · subst hline
    rfl
  have hchar : escapeChar c = [c] := by simp [escapeChar, hslash, hquote, hline]
  rw [hchar, List.singleton_append, readWithin]
  · simp [hquote]
  · simp [hquote]
  · simp [hslash]

theorem readWithin_escape (v s : List Char) : readWithin (v.flatMap escapeChar ++ s) =
    (readWithin s).map fun p => (pushText v p.1, p.2) := by
  induction v with
  | nil => exact Option.map_id'.symm
  | cons c v ih =>
    rw [List.flatMap_cons, List.append_assoc, readWithin_escapeChar, ih, Option.map_map]
    rfl

/-- A value as it is written in a list. -/
def quoted (v : List Char) : List Char := '\'' :: (v.flatMap escapeChar ++ ['\''])

theorem readLiterals_quoted (v : List Char) {rest : List Char} (h : rest.head? ≠ some ',') :
    readLiterals (quoted v ++ rest) = some ([v], rest) := by
  have hend : readWithin ('\'' :: rest) = some ([[]], rest) := by
    rw [readWithin]
    rintro r rfl
    exact h rfl
  rw [quoted, List.cons_append, List.append_assoc, List.singleton_append, readLiterals,
    readWithin_escape, hend, Option.map_some, pushText_cons_piece, List.append_nil]

theorem readLiterals_quoted_append (v w s : List Char) :
    readLiterals (quoted v ++ [',', ' '] ++ (quoted w ++ s)) =
      (readLiterals (quoted w ++ s)).map fun p => (v :: p.1, p.2) := by
  have hnext : readWithin (['\''] ++ ([',', ' '] ++ (quoted w ++ s))) =
      (readLiterals (quoted w ++ s)).map fun p => ([] :: p.1, p.2) := rfl
  rw [List.append_assoc, quoted, List.cons_append, List.append_assoc, readLiterals,
    readWithin_escape, hnext, Option.map_map]
  refine congrArg (Option.map · _) (funext fun p => ?_)
  simp [pushText_cons_piece]

/-- A list of values reads back as the values, whatever they hold. -/
theorem readLiterals_joinWith {vs : List (List Char)} (hvs : vs ≠ []) {rest : List Char}
    (hrest : rest.head? ≠ some ',') :
    readLiterals (joinWith [',', ' '] (vs.map quoted) ++ rest) = some (vs, rest) := by
  induction vs with
  | nil => contradiction
  | cons v vs ih =>
    cases vs with
    | nil => exact readLiterals_quoted v hrest
    | cons w vs =>
      have hjoin : joinWith [',', ' '] ((v :: w :: vs).map quoted) =
          quoted v ++ [',', ' '] ++ joinWith [',', ' '] ((w :: vs).map quoted) := rfl
      -- What comes after the separator starts with a literal again.
      obtain ⟨s, hs⟩ : ∃ s, joinWith [',', ' '] ((w :: vs).map quoted) ++ rest = quoted w ++ s := by
        cases vs with
        | nil => exact ⟨rest, rfl⟩
        | cons x vs =>
          refine ⟨[',', ' '] ++ (joinWith [',', ' '] ((x :: vs).map quoted) ++ rest), ?_⟩
          simp [joinWith]
      have htail := ih (List.cons_ne_nil w vs)
      rw [hs] at htail
      rw [hjoin, List.append_assoc, hs, readLiterals_quoted_append, htail]
      rfl

/-- A quote without a backslash does end a literal. -/
example : readLiterals "'it's'".toList = some (["it".toList], "s'".toList) := by decide

theorem toList_singleQuoted (v : String) : (singleQuoted v).toList = quoted v.toList := by
  simp [singleQuoted, escape, quoted]

/-- Marking the last value comes to the same as putting a separator between neighbours. -/
theorem toList_enumLiterals (vs : List String) :
    (enumLiterals ((markLast vs).map fun v => ⟨v.1, v.2⟩)).toList =
      joinWith [',', ' '] (vs.map fun v => quoted v.toList) := by
  unfold enumLiterals
  fun_induction markLast vs with
  | case1 => rfl
  | case2 v => simp [toList_singleQuoted, joinWith]
  | case3 v vs hvs ih =>
    obtain ⟨w, ws, rfl⟩ := List.exists_cons_of_ne_nil hvs
    have hcomma : ", ".toList = [',', ' '] := by decide
    rw [List.map_cons, List.map_cons, String.join_cons, String.toList_append, ih]
    simp [toList_singleQuoted, joinWith, hcomma]

/-- Every character in turn in place of one. -/
def replaced (c : Char) (replacement s : List Char) : List Char :=
  s.flatMap fun d => if d = c then replacement else [d]

/-- Escaping in one pass is escaping backslashes first, then quotes, then line feeds: what a pass
puts in is left alone by those after it. -/
theorem flatMap_escapeChar (s : List Char) : s.flatMap escapeChar =
    replaced '\n' ['\\', 'n'] (replaced '\'' ['\\', '\''] (replaced '\\' ['\\', '\\'] s)) := by
  have hchar (c : Char) : escapeChar c = replaced '\n' ['\\', 'n']
      (replaced '\'' ['\\', '\''] (if c = '\\' then ['\\', '\\'] else [c])) := by
    unfold escapeChar
    split
    · rfl
    · split
      · subst c
        rfl
      · simp [replaced, *]
  unfold replaced at *
  rw [List.flatMap_assoc, List.flatMap_assoc]
  refine congrArg (List.flatMap · s) (funext fun c => ?_)
  rw [hchar, List.flatMap_assoc]

theorem exists_constant_of_mem {p : DialectProfile} {m : TableModel} {d : EnumDefinition}
    (h : d ∈ m.enums) : ∃ before after, statements p m =
      before ++ .value d.constantName ("[" ++ enumLiterals d.values ++ "] as const") :: after := by
  obtain ⟨ds, es, hds⟩ := List.append_of_mem h
  refine ⟨jsonStatements m ++ .gap :: ds.flatMap enumStatements,
    (enumStatements d).tail ++ es.flatMap enumStatements ++ selectStatements m ++
      (if m.supportsWrite then writeStatements p m else []), ?_⟩
  simp [statements, hds, enumStatements]

end ModuleText

namespace ModelBuilder
open ModuleText

/-- The constant of a column in its module: the text between its brackets reads back as the values
of the column, also when reading goes on into the text that follows. -/
theorem build_constants_read (b : ModelBuilder) (t : Table) {c : Column} (hc : c ∈ t.columns)
    (hvalues : c.enumValues ≠ []) :
    ∃ model, (b.build {} t).outcome = .ok model ∧
      ∃ before literals after, statements b.profile model = before ++
          .value (b.naming.enumConstant t.name c.name) ("[" ++ literals ++ "] as const") :: after ∧
        (model.emit b.profile).content =
          preamble model ++ b.profile.importLine ++ "\n" ++ statementText before ++
            "export const " ++ b.naming.enumConstant t.name c.name ++ " = [" ++ literals ++
              "] as const;\n" ++ statementText after ∧
        readLiterals literals.toList = some (c.enumValues.map String.toList, []) ∧
        ∀ rest : String, readLiterals (literals ++ "]" ++ rest).toList =
          some (c.enumValues.map String.toList, ("]" ++ rest).toList) := by
  let d : EnumDefinition := {
    columnName := c.name
    constantName := b.naming.enumConstant t.name c.name
    schemaName := b.naming.enumSchema t.name c.name
    typeName := b.naming.enumType t.name c.name
    values := (markLast c.enumValues).map fun v => ⟨v.1, v.2⟩ }
  have hmem : d ∈ (b.plainModel t).enums := by
    have henum : c.isEnum = true := by simpa [Column.isEnum] using hvalues
    rw [enums_plainModel]
    exact List.mem_map.2 ⟨c, List.mem_filter.2 ⟨hc, henum⟩, rfl⟩
  obtain ⟨before, after, hstatements⟩ := exists_constant_of_mem (p := b.profile) hmem
  have hread {rest : List Char} (hrest : rest.head? ≠ some ',') :
      readLiterals ((enumLiterals d.values).toList ++ rest) =
        some (c.enumValues.map String.toList, rest) := by
    have hne : c.enumValues.map String.toList ≠ [] := by simpa using hvalues
    have htext : (enumLiterals d.values).toList =
        Text.joinWith [',', ' '] ((c.enumValues.map String.toList).map quoted) := by
      rw [List.map_map]
      exact toList_enumLiterals c.enumValues
    rw [htext]
    exact readLiterals_joinWith hne hrest
  refine ⟨b.plainModel t, b.build_outcome t, before, enumLiterals d.values, after, hstatements,
    ?_, ?_, fun rest => ?_⟩
  · have hopen : " = [" = " = " ++ "[" := by decide
    have hclose : "] as const;\n" = "] as const" ++ ";\n" := by decide
    show content b.profile (b.plainModel t) = _
    simp only [content_eq, hstatements, statementText_append, statementText_cons,
      Statement.text_value, hopen, hclose, String.append_assoc, d]
  · have hwhole := @hread [] nofun
    rwa [List.append_nil] at hwhole
  · have hbracket : ("]" ++ rest).toList.head? ≠ some ',' := by simp
    rw [String.append_assoc, String.toList_append]
    exact hread hbracket

/-- Values with quotes, backslashes, separators, brackets and line feeds. -/
theorem build_constants_read_hostile :
    let values := ["it's", "a\\", "x', 'y", "'] as const;\n"]
    let b : ModelBuilder := ⟨{}, Dialect.zod4.profile, {}, none⟩
    let raw : RawColumn :=
      ⟨"status", "orders", .table, "public", "order_status", false, none, none, none, [], values, 1⟩
    let t : Table := ⟨"public", "orders", .table, [raw.describe]⟩
    raw.describe.enumValues = values ∧
      ∃ model before literals after, (b.build {} t).outcome = .ok model ∧
        (model.emit b.profile).content = before ++ "export const " ++ "ORDER_STATUSES" ++ " = [" ++
          literals ++ "] as const;\n" ++ after ∧
        readLiterals literals.toList = some (values.map String.toList, []) := by
  intro values b raw t
  have hvalues : raw.describe.enumValues = values := by decide +kernel
  have hname : b.naming.enumConstant t.name raw.describe.name = "ORDER_STATUSES" := by
    decide +kernel
  obtain ⟨model, hmodel, before, literals, after, -, hcontent, hread, -⟩ :=
    build_constants_read b t (c := raw.describe) List.mem_cons_self (by simp [hvalues, values])
  rw [hname] at hcontent
  rw [hvalues] at hread
  exact ⟨hvalues, model, _, literals, _, hmodel, hcontent, hread⟩

end ModelBuilder
end ZodCatalog
