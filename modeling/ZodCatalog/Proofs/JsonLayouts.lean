import Mathlib.Data.List.DropRight
import ZodCatalog.Proofs.JsonTexts

/-! Texts that write a document, however its parts are set apart. A text is read as the document
that it holds; what is written on one line and what is written over several lines are such texts. -/

namespace ZodCatalog.Document

namespace Json

section Documents

def Blanks (b : List Char) : Prop := ∀ c ∈ b, isBlank c = true

/-- A text that does not go on with a word. -/
def EndsWord (rest : List Char) : Prop := ∀ c, rest.head? = some c → isWordChar c = false

/-- A text that is no blank and closes nothing where it starts. -/
structure Opens (s : List Char) : Prop where
  ne_nil : s ≠ []
  plain : ∀ c, s.head? = some c → isBlank c = false ∧ c ≠ ']' ∧ c ≠ '\x7d'

mutual

/-- Texts that write a document, with blanks wherever they may stand. -/
inductive Writes : Value → List Char → Prop
  -- Null, truth values and numbers, however a number is spelled.
  | word {v : Value} {w : List Char} (hw : ∀ c ∈ w, isWordChar c = true)
    (hread : word? w = some v) : Writes v w
  | text (s : String) : Writes (.text s) (quote s).toList
  | emptyList {b : List Char} (hb : Blanks b) :
    Writes (.list []) ('[' :: (b ++ [']']))
  | list {vs : List Value} {t : List Char} (h : WritesItems vs t) :
    Writes (.list vs) ('[' :: t)
  | emptyRecord {b : List Char} (hb : Blanks b) :
    Writes (.record []) ('\x7b' :: (b ++ ['\x7d']))
  | record {fs : Fields} {t : List Char} (h : WritesFields fs t) :
    Writes (.record fs) ('\x7b' :: t)

/-- The items of a list and its closing bracket. -/
inductive WritesItems : List Value → List Char → Prop
  | last {v : Value} {b s e : List Char} (hb : Blanks b) (h : Writes v s)
    (he : Blanks e) : WritesItems [v] (b ++ (s ++ (e ++ [']'])))
  | next {v : Value} {vs : List Value} {b s e t : List Char} (hb : Blanks b)
    (h : Writes v s) (he : Blanks e) (hrest : WritesItems vs t) :
    WritesItems (v :: vs) (b ++ (s ++ (e ++ ',' :: t)))

/-- The fields of a record and its closing brace. -/
inductive WritesFields : Fields → List Char → Prop
  | last {key : String} {v : Value} {b b₁ b₂ s e : List Char} (hb : Blanks b)
    (hb₁ : Blanks b₁) (hb₂ : Blanks b₂) (h : Writes v s) (he : Blanks e) :
    WritesFields [(key, v)]
      (b ++ ((quote key).toList ++ (b₁ ++ ':' :: (b₂ ++ (s ++ (e ++ ['\x7d']))))))
  | next {key : String} {v : Value} {fs : Fields} {b b₁ b₂ s e t : List Char}
    (hb : Blanks b) (hb₁ : Blanks b₁) (hb₂ : Blanks b₂) (h : Writes v s) (he : Blanks e)
    (hrest : WritesFields fs t) :
    WritesFields ((key, v) :: fs)
      (b ++ ((quote key).toList ++ (b₁ ++ ':' :: (b₂ ++ (s ++ (e ++ ',' :: t))))))

end

theorem cut_word {word rest : List Char} (hword : ∀ c ∈ word, isWordChar c = true)
    (hrest : EndsWord rest) : (word ++ rest).takeWhile isWordChar = word ∧
      (word ++ rest).dropWhile isWordChar = rest := by
  rw [List.takeWhile_append_of_pos hword, List.dropWhile_append_of_pos hword]
  cases rest with
  | nil => simp
  | cons c rest =>
    have hc := hrest c rfl
    simp [hc]

theorem word?_ne_nil {word : List Char} {v : Value} (h : word? word = some v) : word ≠ [] := by
  rintro rfl
  have hnone : word? [] = none := by decide +kernel
  exact nomatch hnone.symm.trans h

/-- A word is read by itself. -/
theorem readValue_word {word rest : List Char} {v : Value}
    (hword : ∀ c ∈ word, isWordChar c = true) (hread : word? word = some v)
    (hrest : EndsWord rest) (fuel : Nat) :
    readValue (fuel + 1) (word ++ rest) = some (v, rest) := by
  obtain ⟨htake, hdrop⟩ := cut_word hword hrest
  -- The other branches of the reader ask for a first character that no word has.
  have hopen (c : Char) (hc : isWordChar c = false) (r : List Char) : word ++ rest ≠ c :: r := by
    cases word with
    | nil => exact absurd rfl (word?_ne_nil hread)
    | cons d word =>
      intro h
      rw [← (List.cons.inj h).1, hword d List.mem_cons_self] at hc
      contradiction
  rw [readValue, htake, hdrop, hread]
  · rfl
  · exact fun r h => hopen '"' rfl r h
  · exact fun r h => hopen '[' rfl r h
  · exact fun r h => hopen '\x7b' rfl r h

theorem isWordChar_of_isBlank {c : Char} (h : isBlank c = true) : isWordChar c = false := by
  simp only [isBlank, Bool.or_eq_true, beq_iff_eq] at h
  rcases h with ((rfl | rfl) | rfl) | rfl <;> rfl

theorem Blanks.endsWord {b : List Char} (hb : Blanks b) : EndsWord b :=
  fun c hc => isWordChar_of_isBlank (hb c (List.mem_of_head? hc))

theorem endsWord_blanks {b : List Char} {c : Char} (hb : Blanks b) (hc : isWordChar c = false)
    (rest : List Char) : EndsWord (b ++ c :: rest) := by
  intro d hd
  cases b with
  | nil =>
    rw [← Option.some.inj hd]
    exact hc
  | cons e b => exact hb.endsWord d hd

theorem skipBlanks_cons {c : Char} (h : isBlank c = false) (rest : List Char) :
    skipBlanks (c :: rest) = c :: rest := by
  rw [skipBlanks, List.dropWhile_cons_of_neg (by simp [h])]

theorem skipBlanks_blanks {b : List Char} (hb : Blanks b) (rest : List Char) :
    skipBlanks (b ++ rest) = skipBlanks rest := List.dropWhile_append_of_pos hb

theorem Opens.append {s : List Char} (h : Opens s) (rest : List Char) : Opens (s ++ rest) := by
  cases s with
  | nil => exact absurd rfl h.ne_nil
  | cons c s => exact ⟨List.cons_ne_nil c _, h.plain⟩

theorem Opens.skipBlanks_eq {s : List Char} (h : Opens s) : skipBlanks s = s := by
  cases s with
  | nil => rfl
  | cons c s => exact skipBlanks_cons (h.plain c rfl).1 s

theorem toList_quote (s : String) (rest : List Char) :
    (quote s).toList ++ rest = '"' :: (s.toList.flatMap escapeChar ++ '"' :: rest) := by
  simp [quote]

theorem opens_cons {c : Char} {s : List Char} (hblank : isBlank c = false) (hlist : c ≠ ']')
    (hrecord : c ≠ '\x7d') : Opens (c :: s) := by
  refine ⟨List.cons_ne_nil c s, fun d hd => ?_⟩
  rw [← Option.some.inj hd]
  exact ⟨hblank, hlist, hrecord⟩

theorem opens_word {word : List Char} (hne : word ≠ [])
    (hword : ∀ c ∈ word, isWordChar c = true) : Opens word := by
  refine ⟨hne, fun c hc => ?_⟩
  have hwordChar := hword c (List.mem_of_head? hc)
  refine ⟨?_, ?_, ?_⟩
  · by_contra hblank
    rw [isWordChar_of_isBlank (Bool.not_eq_false _ ▸ hblank)] at hwordChar
    contradiction
  · rintro rfl
    contradiction
  · rintro rfl
    contradiction

theorem opens_quote (s : String) : Opens (quote s).toList := by
  have htext := toList_quote s []
  rw [List.append_nil] at htext
  rw [htext]
  exact opens_cons rfl (by decide) (by decide)

theorem Writes.opens {v : Value} {s : List Char} (h : Writes v s) :
    Opens s := by
  cases h with
  | word hw hread => exact opens_word (word?_ne_nil hread) hw
  | text s => exact opens_quote s
  | emptyList _ => exact opens_cons rfl (by decide) (by decide)
  | list _ => exact opens_cons rfl (by decide) (by decide)
  | emptyRecord _ => exact opens_cons rfl (by decide) (by decide)
  | record _ => exact opens_cons rfl (by decide) (by decide)

theorem Opens.after_blanks {b s : List Char} (h : Opens s) (hb : Blanks b) :
    Opens (skipBlanks (b ++ s)) := by
  rw [skipBlanks_blanks hb, h.skipBlanks_eq]
  exact h

theorem WritesItems.opens {vs : List Value} {t : List Char}
    (h : WritesItems vs t) (rest : List Char) : Opens (skipBlanks (t ++ rest)) := by
  cases h with
  | last hb h _ =>
    rw [List.append_assoc, List.append_assoc]
    exact (h.opens.append _).after_blanks hb
  | next hb h _ _ =>
    rw [List.append_assoc, List.append_assoc]
    exact (h.opens.append _).after_blanks hb

theorem WritesFields.opens {fs : Fields} {t : List Char}
    (h : WritesFields fs t) (rest : List Char) : Opens (skipBlanks (t ++ rest)) := by
  cases h with
  | last hb =>
    rw [List.append_assoc, List.append_assoc]
    exact ((opens_quote _).append _).after_blanks hb
  | next hb =>
    rw [List.append_assoc, List.append_assoc]
    exact ((opens_quote _).append _).after_blanks hb

section Steps
variable {fuel : Nat} {v : Value} {b s rest : List Char}

theorem readValue_list (h : Opens (skipBlanks s)) :
    readValue (fuel + 1) ('[' :: s) =
      (readItems fuel (skipBlanks s)).map fun p => (.list p.1, p.2) := by
  unfold readValue
  simp only
  split
  · rename_i hclose
    rw [hclose] at h
    exact absurd rfl (h.plain ']' rfl).2.1
  · rw [Option.map_eq_bind]
    rfl

theorem readValue_record (h : Opens (skipBlanks s)) :
    readValue (fuel + 1) ('\x7b' :: s) =
      (readFields fuel (skipBlanks s)).map fun p => (.record p.1, p.2) := by
  unfold readValue
  simp only
  split
  · rename_i hclose
    rw [hclose] at h
    exact absurd rfl (h.plain '\x7d' rfl).2.2
  · rw [Option.map_eq_bind]
    rfl

theorem skipBlanks_skipBlanks (s : List Char) : skipBlanks (skipBlanks s) = skipBlanks s :=
  List.dropWhile_idempotent ..

theorem readItems_skipBlanks (fuel : Nat) (s : List Char) :
    readItems fuel (skipBlanks s) = readItems fuel s := by
  cases fuel with
  | zero => rfl
  | succ fuel => rw [readItems, readItems, skipBlanks_skipBlanks]

theorem readFields_skipBlanks (fuel : Nat) (s : List Char) :
    readFields fuel (skipBlanks s) = readFields fuel s := by
  cases fuel with
  | zero => rfl
  | succ fuel => rw [readFields, readFields, skipBlanks_skipBlanks]

/-- An item is read, then what follows it decides. -/
theorem readItems_step (hb : Blanks b) (hs : Opens s)
    (hread : readValue fuel (s ++ rest) = some (v, rest)) :
    readItems (fuel + 1) (b ++ (s ++ rest)) =
      match skipBlanks rest with
      | ',' :: r => (readItems fuel r).map fun p => (v :: p.1, p.2)
      | ']' :: r => some ([v], r)
      | _ => none := by
  rw [readItems, skipBlanks_blanks hb, (hs.append rest).skipBlanks_eq, hread]
  simp only [Option.bind_eq_bind, Option.bind_some, Option.map_eq_bind]
  rfl

theorem readFields_step {key : String} {b₁ b₂ : List Char} (hb : Blanks b) (hb₁ : Blanks b₁)
    (hb₂ : Blanks b₂) (hs : Opens s) (hread : readValue fuel (s ++ rest) = some (v, rest)) :
    readFields (fuel + 1)
        (b ++ ((quote key).toList ++ (b₁ ++ ':' :: (b₂ ++ (s ++ rest))))) =
      match skipBlanks rest with
      | ',' :: r => (readFields fuel r).map fun p => ((key, v) :: p.1, p.2)
      | '\x7d' :: r => some ([(key, v)], r)
      | _ => none := by
  have hquote : isBlank '"' = false := rfl
  have hcolon : isBlank ':' = false := rfl
  rw [toList_quote, readFields, skipBlanks_blanks hb, skipBlanks_cons hquote]
  simp only [readText_escaped, Option.bind_eq_bind, Option.bind_some, skipBlanks_blanks hb₁,
    skipBlanks_cons hcolon, skipBlanks_blanks hb₂, (hs.append rest).skipBlanks_eq, hread,
    Option.map_eq_bind, String.ofList_toList]
  rfl

end Steps

/-- So much fuel is enough for what is written by less than half as many characters. -/
structure Suffices (fuel : Nat) : Prop where
  value {v : Value} {s rest : List Char} (h : Writes v s)
    (hrest : EndsWord rest) (hfuel : 2 * s.length < fuel) :
    readValue fuel (s ++ rest) = some (v, rest)
  items {vs : List Value} {t : List Char} (h : WritesItems vs t)
    (rest : List Char) (hfuel : 2 * t.length < fuel) :
    readItems fuel (t ++ rest) = some (vs, rest)
  fields {fs : Fields} {t : List Char} (h : WritesFields fs t)
    (rest : List Char) (hfuel : 2 * t.length < fuel) :
    readFields fuel (t ++ rest) = some (fs, rest)

section Sufficiency
variable {fuel : Nat}

theorem Suffices.value_succ (hsuff : Suffices fuel) {v : Value} {s rest : List Char}
    (h : Writes v s) (hrest : EndsWord rest) (hfuel : 2 * s.length < fuel + 1) :
    readValue (fuel + 1) (s ++ rest) = some (v, rest) := by
  cases h with
  | word hw hread => exact readValue_word hw hread hrest fuel
  | text s =>
    rw [toList_quote, readValue, readText_escaped]
    simp only [Option.bind_eq_bind, Option.bind_some, String.ofList_toList]
    rfl
  | emptyList hb =>
    simp only [List.cons_append, List.append_assoc, List.nil_append]
    rw [readValue]
    rw [skipBlanks_blanks hb, skipBlanks_cons rfl]
    rfl
  | list h =>
    rw [List.length_cons] at hfuel
    rw [List.cons_append, readValue_list (h.opens rest), readItems_skipBlanks,
      hsuff.items h rest (by omega)]
    rfl
  | emptyRecord hb =>
    simp only [List.cons_append, List.append_assoc, List.nil_append]
    rw [readValue]
    rw [skipBlanks_blanks hb, skipBlanks_cons rfl]
    rfl
  | record h =>
    rw [List.length_cons] at hfuel
    rw [List.cons_append, readValue_record (h.opens rest), readFields_skipBlanks,
      hsuff.fields h rest (by omega)]
    rfl

theorem Suffices.items_succ (hsuff : Suffices fuel) {vs : List Value} {t : List Char}
    (h : WritesItems vs t) (rest : List Char) (hfuel : 2 * t.length < fuel + 1) :
    readItems (fuel + 1) (t ++ rest) = some (vs, rest) := by
  cases h with
  | last hb h he =>
    simp only [List.length_append, List.length_singleton] at hfuel
    have hread := hsuff.value h (endsWord_blanks he (c := ']') rfl rest) (by omega)
    simp only [List.append_assoc, List.singleton_append]
    rw [readItems_step hb h.opens hread, skipBlanks_blanks he, skipBlanks_cons rfl]
    rfl
  | @next _ _ _ _ _ t hb h he hnext =>
    simp only [List.length_append, List.length_cons] at hfuel
    have hread := hsuff.value h (endsWord_blanks he (c := ',') rfl (t ++ rest)) (by omega)
    simp only [List.append_assoc, List.cons_append]
    rw [readItems_step hb h.opens hread, skipBlanks_blanks he, skipBlanks_cons rfl]
    simp only [hsuff.items hnext rest (by omega), Option.map_some]

theorem Suffices.fields_succ (hsuff : Suffices fuel) {fs : Fields} {t : List Char}
    (h : WritesFields fs t) (rest : List Char) (hfuel : 2 * t.length < fuel + 1) :
    readFields (fuel + 1) (t ++ rest) = some (fs, rest) := by
  cases h with
  | last hb hb₁ hb₂ h he =>
    simp only [List.length_append, List.length_cons] at hfuel
    have hread := hsuff.value h (endsWord_blanks he (c := '\x7d') rfl rest) (by omega)
    simp only [List.append_assoc, List.cons_append, List.nil_append]
    rw [readFields_step hb hb₁ hb₂ h.opens hread, skipBlanks_blanks he, skipBlanks_cons rfl]
    rfl
  | @next _ _ _ _ _ _ _ _ t hb hb₁ hb₂ h he hnext =>
    simp only [List.length_append, List.length_cons] at hfuel
    have hread := hsuff.value h (endsWord_blanks he (c := ',') rfl (t ++ rest)) (by omega)
    simp only [List.append_assoc, List.cons_append]
    rw [readFields_step hb hb₁ hb₂ h.opens hread, skipBlanks_blanks he, skipBlanks_cons rfl]
    simp only [hsuff.fields hnext rest (by omega), Option.map_some]

theorem suffices_fuel (fuel : Nat) : Suffices fuel := by
  -- On the fuel, which each of the readers passes on reduced by one, so that the three relations
  -- need no induction of their own.
  induction fuel with
  | zero =>
    exact ⟨fun _ _ hfuel => absurd hfuel (Nat.not_lt_zero _),
      fun _ _ hfuel => absurd hfuel (Nat.not_lt_zero _),
      fun _ _ hfuel => absurd hfuel (Nat.not_lt_zero _)⟩
  | succ fuel ih => exact ⟨ih.value_succ, ih.items_succ, ih.fields_succ⟩

end Sufficiency

/-- A text that writes a document, with nothing around it but blanks. -/
def Holds (text : String) (v : Value) : Prop :=
  ∃ b s e, Blanks b ∧ Writes v s ∧ Blanks e ∧ text.toList = b ++ (s ++ e)

/-- A text says the document that it holds. -/
theorem tree?_of_holds {text : String} {v : Value} (h : Holds text v) : tree? text = some v := by
  obtain ⟨b, s, e, hb, h, he, htext⟩ := h
  have hread := (suffices_fuel (2 * (s ++ e).length + 2)).value h he.endsWord
    (by rw [List.length_append]; omega)
  have hend : skipBlanks e = [] := List.dropWhile_eq_nil_iff.mpr he
  rw [tree?, htext, skipBlanks_blanks hb, (h.opens.append e).skipBlanks_eq, hread]
  simp only [Option.bind_eq_bind, Option.bind_some, hend, List.isEmpty_nil, if_true]

end Documents

section Written

/-- Documents that nest at most so deep, all of whose numbers are integers in range. -/
inductive Plain : Nat → Value → Prop
  | null {depth : Nat} : Plain depth .null
  | bool {depth : Nat} (b : Bool) : Plain depth (.bool b)
  | int {depth : Nat} {n : Int} (h : n.natAbs < Toml.floatLimit) : Plain depth (.int n)
  | text {depth : Nat} (s : String) : Plain depth (.text s)
  | list {depth : Nat} {items : List Value} (h : ∀ v ∈ items, Plain depth v) :
    Plain (depth + 1) (.list items)
  | record {depth : Nat} {fields : Fields} (h : ∀ f ∈ fields, Plain depth f.2) :
    Plain (depth + 1) (.record fields)

theorem Plain.withinLimits {depth : Nat} {v : Value} (h : Plain depth v) :
    withinLimits depth v = true := by
  induction h with
  | @null depth => cases depth <;> rfl
  | @bool depth b => cases depth <;> rfl
  | @int depth n h => cases depth <;> exact decide_eq_true h
  | @text depth s => cases depth <;> rfl
  | list _ ih => exact List.all_eq_true.2 ih
  | record _ ih => exact List.all_eq_true.2 ih

/-- All integers of 32 bits are in range. -/
theorem plain_int {depth : Nat} {n : Int} (h : n.natAbs ≤ 4294967296) : Plain depth (.int n) := by
  have hlimit : 4294967296 < Toml.floatLimit := by decide +kernel
  exact .int (Nat.lt_of_le_of_lt h hlimit)

theorem blanks_nil : Blanks [] := fun _ hc => absurd hc List.not_mem_nil

theorem blanks_newline (depth : Nat) : Blanks ('\n' :: (Value.indentation depth).toList) := by
  intro c hc
  rw [Value.indentation, String.toList_ofList, List.mem_cons] at hc
  obtain rfl | hc := hc
  · rfl
  · rw [List.eq_of_mem_replicate hc]
    rfl

variable {depth : Nat}

theorem writes_word {v : Value} {w : List Char} (hw : w.all isWordChar = true)
    (hread : word? w = some v) : Writes v w := .word (List.all_eq_true.mp hw) hread

theorem writes_null : Writes .null (scalar .null).toList := by
  have htext : (scalar .null).toList = ['n', 'u', 'l', 'l'] := by decide +kernel
  rw [htext]
  exact writes_word rfl word?_null

theorem writes_bool (b : Bool) : Writes (.bool b) (scalar (.bool b)).toList := by
  cases b with
  | true =>
    have htext : (scalar (.bool true)).toList = ['t', 'r', 'u', 'e'] := by decide +kernel
    rw [htext]
    exact writes_word rfl word?_true
  | false =>
    have htext : (scalar (.bool false)).toList = ['f', 'a', 'l', 's', 'e'] := by decide +kernel
    rw [htext]
    exact writes_word rfl word?_false

theorem writes_int (n : Int) : Writes (.int n) (scalar (.int n)).toList :=
  .word (isWordChar_toString n) (word?_toString n)

theorem writesItems_compact {items : List Value} (hne : items ≠ [])
    (h : ∀ v ∈ items, Writes v v.compact.toList) :
    WritesItems items ((Value.compactItems items).toList ++ [']']) := by
  induction items with
  | nil => contradiction
  | cons v vs ih =>
    rw [List.forall_mem_cons] at h
    cases vs with
    | nil => exact .last blanks_nil h.1 blanks_nil
    | cons w vs =>
      have htext : (Value.compactItems (v :: w :: vs)).toList ++ [']'] =
          [] ++ (v.compact.toList ++
            ([] ++ ',' :: ((Value.compactItems (w :: vs)).toList ++ [']']))) := by
        simp [Value.compactItems]
      rw [htext]
      exact .next blanks_nil h.1 blanks_nil (ih (List.cons_ne_nil w vs) h.2)

theorem writesFields_compact {fields : Fields} (hne : fields ≠ [])
    (h : ∀ f ∈ fields, Writes f.2 f.2.compact.toList) :
    WritesFields fields ((Value.compactFields fields).toList ++ ['\x7d']) := by
  induction fields with
  | nil => contradiction
  | cons f fs ih =>
    obtain ⟨key, v⟩ := f
    rw [List.forall_mem_cons] at h
    cases fs with
    | nil =>
      have htext : (Value.compactFields [(key, v)]).toList ++ ['\x7d'] =
          [] ++ ((quote key).toList ++ ([] ++ ':' :: ([] ++ (v.compact.toList ++
            ([] ++ ['\x7d']))))) := by
        simp [Value.compactFields]
      rw [htext]
      exact .last blanks_nil blanks_nil blanks_nil h.1 blanks_nil
    | cons g fs =>
      have htext : (Value.compactFields ((key, v) :: g :: fs)).toList ++ ['\x7d'] =
          [] ++ ((quote key).toList ++ ([] ++ ':' :: ([] ++ (v.compact.toList ++
            ([] ++ ',' :: ((Value.compactFields (g :: fs)).toList ++ ['\x7d'])))))) := by
        simp [Value.compactFields]
      rw [htext]
      exact .next blanks_nil blanks_nil blanks_nil h.1 blanks_nil
        (ih (List.cons_ne_nil g fs) h.2)

theorem toList_compact_list (items : List Value) :
    (Value.list items).compact.toList = '[' :: ((Value.compactItems items).toList ++ [']']) := by
  simp [Value.compact]

theorem toList_compact_record (fields : Fields) :
    (Value.record fields).compact.toList =
      '\x7b' :: ((Value.compactFields fields).toList ++ ['\x7d']) := by
  have hopen : "\x7b".toList = ['\x7b'] := by decide
  have hclose : "\x7d".toList = ['\x7d'] := by decide
  simp [Value.compact, hopen, hclose]

theorem writes_compact_list {items : List Value} (h : ∀ v ∈ items, Writes v v.compact.toList) :
    Writes (.list items) (Value.list items).compact.toList := by
  rw [toList_compact_list]
  cases items with
  | nil => exact .emptyList blanks_nil
  | cons v vs => exact .list (writesItems_compact (List.cons_ne_nil v vs) h)

theorem writes_compact_record {fields : Fields} (h : ∀ f ∈ fields, Writes f.2 f.2.compact.toList) :
    Writes (.record fields) (Value.record fields).compact.toList := by
  rw [toList_compact_record]
  cases fields with
  | nil => exact .emptyRecord blanks_nil
  | cons f fs => exact .record (writesFields_compact (List.cons_ne_nil f fs) h)

theorem Plain.writes_compact {v : Value} (h : Plain depth v) : Writes v v.compact.toList := by
  induction h with
  | null => exact writes_null
  | bool b => exact writes_bool b
  | @int _ n _ => exact writes_int n
  | text s => exact .text s
  | list _ ih => exact writes_compact_list ih
  | record _ ih => exact writes_compact_record ih

theorem writesItems_pretty {n : Nat} {e : List Char} (he : Blanks e) {items : List Value}
    (hne : items ≠ []) (h : ∀ v ∈ items, Writes v (v.pretty n).toList) :
    WritesItems items ('\n' :: ((Value.prettyItems n items).toList ++ (e ++ [']']))) := by
  -- The line feed behind a comma counts as a blank in front of the next item.
  have hblanks := blanks_newline n
  induction items with
  | nil => contradiction
  | cons v vs ih =>
    rw [List.forall_mem_cons] at h
    cases vs with
    | nil =>
      have htext : '\n' :: ((Value.prettyItems n [v]).toList ++ (e ++ [']'])) =
          ('\n' :: (Value.indentation n).toList) ++ ((v.pretty n).toList ++ (e ++ [']'])) := by
        simp [Value.prettyItems]
      rw [htext]
      exact .last hblanks h.1 he
    | cons w vs =>
      have htext : '\n' :: ((Value.prettyItems n (v :: w :: vs)).toList ++ (e ++ [']'])) =
          ('\n' :: (Value.indentation n).toList) ++ ((v.pretty n).toList ++ ([] ++ ',' ::
            '\n' :: ((Value.prettyItems n (w :: vs)).toList ++ (e ++ [']'])))) := by
        simp [Value.prettyItems]
      rw [htext]
      exact .next hblanks h.1 blanks_nil (ih (List.cons_ne_nil w vs) h.2)

theorem writesFields_pretty {n : Nat} {e : List Char} (he : Blanks e) {fields : Fields}
    (hne : fields ≠ []) (h : ∀ f ∈ fields, Writes f.2 (f.2.pretty n).toList) :
    WritesFields fields
      ('\n' :: ((Value.prettyFields n fields).toList ++ (e ++ ['\x7d']))) := by
  have hblanks := blanks_newline n
  have hspace : Blanks [' '] := List.forall_mem_singleton.mpr rfl
  induction fields with
  | nil => contradiction
  | cons f fs ih =>
    obtain ⟨key, v⟩ := f
    rw [List.forall_mem_cons] at h
    cases fs with
    | nil =>
      have htext : '\n' :: ((Value.prettyFields n [(key, v)]).toList ++ (e ++ ['\x7d'])) =
          ('\n' :: (Value.indentation n).toList) ++ ((quote key).toList ++ ([] ++ ':' ::
            ([' '] ++ ((v.pretty n).toList ++ (e ++ ['\x7d']))))) := by
        simp [Value.prettyFields]
      rw [htext]
      exact .last hblanks blanks_nil hspace h.1 he
    | cons g fs =>
      have htext :
          '\n' :: ((Value.prettyFields n ((key, v) :: g :: fs)).toList ++ (e ++ ['\x7d'])) =
          ('\n' :: (Value.indentation n).toList) ++ ((quote key).toList ++ ([] ++ ':' ::
            ([' '] ++ ((v.pretty n).toList ++ ([] ++ ',' ::
              '\n' :: ((Value.prettyFields n (g :: fs)).toList ++ (e ++ ['\x7d']))))))) := by
        simp [Value.prettyFields]
      rw [htext]
      exact .next hblanks blanks_nil hspace h.1 blanks_nil (ih (List.cons_ne_nil g fs) h.2)

theorem toList_pretty_list (n : Nat) (v : Value) (vs : List Value) :
    ((Value.list (v :: vs)).pretty n).toList =
      '[' :: '\n' :: ((Value.prettyItems (n + 1) (v :: vs)).toList ++
        (('\n' :: (Value.indentation n).toList) ++ [']'])) := by
  simp [Value.pretty]

theorem toList_pretty_record (n : Nat) (f : String × Value) (fs : Fields) :
    ((Value.record (f :: fs)).pretty n).toList =
      '\x7b' :: '\n' :: ((Value.prettyFields (n + 1) (f :: fs)).toList ++
        (('\n' :: (Value.indentation n).toList) ++ ['\x7d'])) := by
  have hopen : "\x7b\n".toList = ['\x7b', '\n'] := by decide
  have hclose : "\x7d".toList = ['\x7d'] := by decide
  simp [Value.pretty, hopen, hclose]

theorem Plain.writes_pretty {v : Value} (h : Plain depth v) (n : Nat) :
    Writes v (v.pretty n).toList := by
  induction h generalizing n with
  | null => exact writes_null
  | bool b => exact writes_bool b
  | @int _ m _ => exact writes_int m
  | text s => exact .text s
  | @list _ items _ ih =>
    cases items with
    | nil =>
      have htext : ((Value.list []).pretty n).toList = '[' :: ([] ++ [']']) := by
        rw [Value.pretty]
        decide +kernel
      rw [htext]
      exact .emptyList blanks_nil
    | cons v vs =>
      rw [toList_pretty_list]
      exact .list (writesItems_pretty (blanks_newline n) (List.cons_ne_nil v vs)
        fun w hw => ih w hw (n + 1))
  | @record _ fields _ ih =>
    cases fields with
    | nil =>
      have htext : ((Value.record []).pretty n).toList = '\x7b' :: ([] ++ ['\x7d']) := by
        rw [Value.pretty]
        decide +kernel
      rw [htext]
      exact .emptyRecord blanks_nil
    | cons f fs =>
      rw [toList_pretty_record]
      exact .record (writesFields_pretty (blanks_newline n) (List.cons_ne_nil f fs)
        fun g hg => ih g hg (n + 1))

theorem holds_of_writes {text : String} {v : Value} (h : Writes v text.toList) : Holds text v :=
  ⟨[], text.toList, [], blanks_nil, h, blanks_nil, by simp⟩

theorem Plain.holds_compact {v : Value} (h : Plain depth v) : Holds v.compact v :=
  holds_of_writes h.writes_compact

theorem Plain.holds_pretty {v : Value} (h : Plain depth v) (n : Nat) : Holds (v.pretty n) v :=
  holds_of_writes (h.writes_pretty n)

end Written

end Json

end ZodCatalog.Document
