import ZodCatalog.Config.Document
import ZodCatalog.Proofs.DescriptorReadings

/-! Configurations read back from what they are written as. Readers look fields up by name and have
the default for a field that is missing, so a field may be left out where it has its default, and a
case style or dialect may be written in any of its spellings. -/

namespace ZodCatalog
open Document

namespace Document

/-- Fields some of which are left out where they have their default, the values of the others being
related under their names. -/
inductive Fields.Abridges (related : String → Value → Value → Prop) (defaults : Fields) :
    Fields → Fields → Prop
  | nil : Abridges related defaults [] []
  | keep {key : String} {v w : Value} {fs gs : Fields} (hv : related key v w)
    (h : Abridges related defaults fs gs) :
      Abridges related defaults ((key, v) :: fs) ((key, w) :: gs)
  | drop {key : String} {v : Value} {fs gs : Fields} (hv : defaults.lookup key = some v)
    (h : Abridges related defaults fs gs) : Abridges related defaults ((key, v) :: fs) gs

namespace Fields.Abridges

variable {related : String → Value → Value → Prop} {defaults fs gs : Fields} {key : String}

theorem refl (h : ∀ f ∈ fs, related f.1 f.2 f.2) : Abridges related defaults fs fs := by
  induction fs with
  | nil => exact .nil
  | cons f fs ih =>
    rw [List.forall_mem_cons] at h
    exact .keep h.1 (ih h.2)

theorem lookup_eq_none (h : Abridges related defaults fs gs) (hmissing : key ∉ fs.map Prod.fst) :
    gs.lookup key = none := by
  induction h with
  | nil => rfl
  | keep _ _ ih =>
    rw [List.map_cons, List.mem_cons, not_or] at hmissing
    rw [Entries.lookup_cons_of_ne hmissing.1]
    exact ih hmissing.2
  | drop _ _ ih =>
    rw [List.map_cons, List.mem_cons, not_or] at hmissing
    exact ih hmissing.2

/-- Each of the fields is found by its name, unless it has its default and was left out. -/
theorem found (h : Abridges related defaults fs gs) (hnodup : (fs.map Prod.fst).Nodup)
    {v : Value} (hmem : (key, v) ∈ fs) :
    (∃ w, related key v w ∧ gs.lookup key = some w) ∨
      (defaults.lookup key = some v ∧ gs.lookup key = none) := by
  induction h with
  | nil => exact absurd hmem List.not_mem_nil
  | @keep key' v' w fs gs hv _ ih =>
    rw [List.map_cons, List.nodup_cons] at hnodup
    rcases List.mem_cons.1 hmem with heq | hmem
    · obtain ⟨rfl, rfl⟩ := Prod.mk.inj heq
      exact .inl ⟨w, hv, List.lookup_cons_self⟩
    · have hne : key ≠ key' := ne_of_mem_of_not_mem (List.mem_map_of_mem hmem) hnodup.1
      rw [Entries.lookup_cons_of_ne hne]
      exact ih hnodup.2 hmem
  | @drop key' v' fs gs hv h ih =>
    rw [List.map_cons, List.nodup_cons] at hnodup
    rcases List.mem_cons.1 hmem with heq | hmem
    · obtain ⟨rfl, rfl⟩ := Prod.mk.inj heq
      exact .inr ⟨hv, h.lookup_eq_none hnodup.1⟩
    · exact ih hnodup.2 hmem

/-- What holds of all that the values may be written as holds of what they are written as. -/
theorem forall_mem {p : Value → Prop} (h : Abridges related defaults fs gs)
    (hfs : ∀ f ∈ fs, ∀ w, related f.1 f.2 w → p w) : ∀ g ∈ gs, p g.2 := by
  induction h with
  | nil => exact nofun
  | keep hv _ ih =>
    rw [List.forall_mem_cons] at hfs ⊢
    exact ⟨hfs.1 _ hv, ih hfs.2⟩
  | drop _ _ ih => exact ih (List.forall_mem_cons.1 hfs).2

end Fields.Abridges

end Document

section Spellings

/-- A spelling stands for the one constant that has it. -/
theorem Document.Value.asConstant?_text {α : Type} {constants : List α}
    {spellings : α → List String} {s : String} {a : α} (hmem : a ∈ constants) (hs : s ∈ spellings a)
    (hone : ∀ b ∈ constants, s ∈ spellings b → b = a) (format : Format) :
    asConstant? format constants spellings (.text s) = some a := by
  cases hfind : constants.find? fun b => (spellings b).contains s with
  | none =>
    have hnone := List.find?_eq_none.1 hfind a hmem
    exact absurd (List.contains_iff_mem.2 hs) hnone
  | some b =>
    have hb := List.find?_some hfind
    rw [← hone b (List.mem_of_find?_eq_some hfind) (List.contains_iff_mem.1 hb)]
    exact hfind

theorem Casing.ofValue?_spelling (format : Format) (c : Casing) {s : String}
    (hs : s ∈ c.name :: c.aliases) : Casing.ofValue? format (.text s) = some c := by
  have hall : ∀ c : Casing, c ∈ all := by
    intro c
    cases c <;> decide
  have hone : ∀ c ∈ all, ∀ s ∈ c.name :: c.aliases, ∀ d ∈ all, s ∈ d.name :: d.aliases → d = c := by
    decide
  exact Value.asConstant?_text (hall c) hs (hone c (hall c) s hs) format

theorem Dialect.ofValue?_spelling (format : Format) (d : Dialect) {s : String}
    (hs : s ∈ d.name :: d.aliases) : Dialect.ofValue? format (.text s) = some d := by
  have hall : ∀ d : Dialect, d ∈ all := by
    intro d
    cases d <;> decide
  have hone : ∀ d ∈ all, ∀ s ∈ d.name :: d.aliases, ∀ e ∈ all, s ∈ e.name :: e.aliases → e = d := by
    decide
  exact Value.asConstant?_text (hall d) hs (hone d (hall d) s hs) format

end Spellings

section Readers
variable {related : String → Value → Value → Prop} {defaults fs gs : Fields} {α : Type}
  {v : Value} {item : Value → Option α}

/-- A field that is read under its name or has the default that its reader falls back on. -/
theorem Document.Fields.Abridges.orElse (h : Abridges related defaults fs gs)
    (hnodup : (fs.map Prod.fst).Nodup) (key : String) {a fallback : α} (hself : related key v v)
    (hread : ∀ w, related key v w → item w = some a)
    (hdefault : ∀ d, defaults.lookup key = some d → item d = some fallback)
    (hmem : (key, v) ∈ fs) : gs.orElse key fallback item = some a := by
  obtain ⟨w, hw, hlookup⟩ | ⟨hv, hlookup⟩ := h.found hnodup hmem
  · rw [Fields.orElse, hlookup]
    exact hread w hw
  · rw [Fields.orElse, hlookup, ← hread v hself]
    exact (hdefault v hv).symm

/-- A field that is read under its name, or is null and reads as nothing where it is missing. -/
theorem Document.Fields.Abridges.optional (h : Abridges related defaults fs gs)
    (hnodup : (fs.map Prod.fst).Nodup) (key : String) {a : Option α} (hself : related key v v)
    (hread : ∀ w, related key v w → w.nullable? item = some a)
    (hdefault : ∀ d, defaults.lookup key = some d → d = .null)
    (hmem : (key, v) ∈ fs) : gs.optional key item = some a := by
  obtain ⟨w, hw, hlookup⟩ | ⟨hv, hlookup⟩ := h.found hnodup hmem
  · rw [Fields.optional, hlookup]
    exact hread w hw
  · rw [Fields.optional, hlookup, ← hread v hself, hdefault v hv]
    rfl

theorem Document.asUInt16?_toNat (n : UInt16) : (Value.int n.toNat).asUInt16? = some n := by
  have hbounds : 0 ≤ (n.toNat : Int) ∧ (n.toNat : Int) ≤ 65535 := by
    have := n.toNat_lt
    omega
  simp [Value.asUInt16?, Value.asInt?, hbounds]

end Readers

section Parts

/-- A field that is written as it was. -/
def Unchanged (_key : String) (v w : Value) : Prop := w = v

namespace ConnectionConfig

def toFields (c : ConnectionConfig) : Fields :=
  [("host", .ofText? c.host), ("port", .int c.port.toNat), ("database", .ofText? c.database),
    ("user", .ofText? c.user), ("password", .ofText? c.password),
    ("ssl_mode", .ofText? c.sslMode), ("connection_string", .ofText? c.connectionString)]

theorem toValue_eq (c : ConnectionConfig) : c.toValue = .record c.toFields := rfl

theorem ofFields?_abridges {c : ConnectionConfig} {gs : Fields}
    (h : Fields.Abridges Unchanged ({} : ConnectionConfig).toFields c.toFields gs) :
    ofFields? gs = some c := by
  have hnodup : (c.toFields.map Prod.fst).Nodup := by simp [toFields]
  have htext (key : String) {t : Option String} (hmem : (key, .ofText? t) ∈ c.toFields)
      (hdefault : ({} : ConnectionConfig).toFields.lookup key = some .null) :
      gs.optional key Value.asText? = some t :=
    h.optional hnodup key rfl (fun w hw => hw ▸ reads_ofText? t _ (.same _))
      (fun d hd => (Option.some.inj (hdefault.symm.trans hd)).symm) hmem
  have hport : gs.orElse "port" 5432 Value.asUInt16? = some c.port :=
    h.orElse hnodup "port" rfl (fun w hw => hw ▸ asUInt16?_toNat c.port)
      (fun d hd => Option.some.inj hd ▸ rfl) (by simp [toFields])
  simp only [ofFields?, hport, htext "host" (t := c.host) (by simp [toFields]) rfl,
    htext "database" (t := c.database) (by simp [toFields]) rfl,
    htext "user" (t := c.user) (by simp [toFields]) rfl,
    htext "password" (t := c.password) (by simp [toFields]) rfl,
    htext "ssl_mode" (t := c.sslMode) (by simp [toFields]) rfl,
    htext "connection_string" (t := c.connectionString) (by simp [toFields]) rfl]
  rfl

end ConnectionConfig

namespace StringTransforms

def toFields (t : StringTransforms) : Fields :=
  [("trim", .bool t.trim), ("lowercase", .bool t.lowercase), ("uppercase", .bool t.uppercase),
    ("normalize", .bool t.normalize)]

theorem toValue_eq (t : StringTransforms) : t.toValue = .record t.toFields := rfl

theorem ofFields?_abridges {t : StringTransforms} {gs : Fields}
    (h : Fields.Abridges Unchanged ({} : StringTransforms).toFields t.toFields gs) :
    ofFields? gs = some t := by
  have hnodup : (t.toFields.map Prod.fst).Nodup := by simp [toFields]
  have hflag (key : String) {b : Bool} (hmem : (key, .bool b) ∈ t.toFields)
      (hdefault : ({} : StringTransforms).toFields.lookup key = some (.bool false)) :
      gs.orElse key false Value.asBool? = some b :=
    h.orElse hnodup key rfl (fun w hw => hw ▸ rfl)
      (fun d hd => Option.some.inj (hdefault.symm.trans hd) ▸ rfl) hmem
  simp only [ofFields?, hflag "trim" (b := t.trim) (by simp [toFields]) rfl,
    hflag "lowercase" (b := t.lowercase) (by simp [toFields]) rfl,
    hflag "uppercase" (b := t.uppercase) (by simp [toFields]) rfl,
    hflag "normalize" (b := t.normalize) (by simp [toFields]) rfl]
  rfl

end StringTransforms

end Parts

/-- A filter that is set is read back, be it a pattern or a list of names. -/
theorem FilterSpec.nullable?_toValue (s : FilterSpec) :
    s.toValue.nullable? FilterSpec.ofValue? = some (some s) := by
  cases s with
  | pattern text => rfl
  | names ns =>
    show ((Value.asList? Value.asText? (.ofTexts ns)).map names).map some = _
    rw [reads_ofTexts ns _ (.same _)]
    rfl

theorem FilterSpec.plain_toValue (depth : Nat) (s : FilterSpec) :
    Json.Plain (depth + 1) s.toValue := by
  cases s with
  | pattern text => exact .text text
  | names ns => exact plain_ofTexts depth ns

namespace GeneratorConfig

/-- How the value of a field may be written: the parts of the configuration without some of their
fields that have the default, case styles and the dialect in any of their spellings. -/
def Spells (key : String) (v w : Value) : Prop :=
  match key with
  | "connection" => ∃ fs gs, v = .record fs ∧ w = .record gs ∧
      Fields.Abridges Unchanged ({} : ConnectionConfig).toFields fs gs
  | "string_transforms" => ∃ fs gs, v = .record fs ∧ w = .record gs ∧
      Fields.Abridges Unchanged ({} : StringTransforms).toFields fs gs
  | "field_name_casing" | "object_name_casing" =>
      ∃ c : Casing, ∃ s ∈ c.name :: c.aliases, v = c.toValue ∧ w = .text s
  | "dialect" => ∃ d : Dialect, ∃ s ∈ d.name :: d.aliases, v = d.toValue ∧ w = .text s
  | _ => w = v

/-- The fields of a configuration, written so and without some of those that have the default. -/
def Abridges (c : GeneratorConfig) (gs : Fields) : Prop :=
  Fields.Abridges Spells ({} : GeneratorConfig).toFields c.toFields gs

theorem nodup_toFields (c : GeneratorConfig) : (c.toFields.map Prod.fst).Nodup := by
  unfold toFields FilterConfig.toFields
  cases c.filter.including <;> cases c.filter.excluding <;> cases c.jsonSchemaImportLocation <;>
    simp

section Fields
variable {c : GeneratorConfig} {gs : Fields} {α : Type} {item : Value → Option α} {a fallback : α}
  (h : c.Abridges gs) (key : String)

include h in
/-- A field that is written as it was or left out where it has its default. -/
theorem orElse_of_plain {v d : Value} (hplain : ∀ v w, Spells key v w ↔ w = v)
    (hread : item v = some a) (hlookup : ({} : GeneratorConfig).toFields.lookup key = some d)
    (hdefault : item d = some fallback) (hmem : (key, v) ∈ c.toFields) :
    gs.orElse key fallback item = some a := by
  refine Fields.Abridges.orElse h c.nodup_toFields key ((hplain v v).2 rfl) (fun w hw => ?_)
    (fun e he => ?_) hmem
  · rw [(hplain v w).1 hw, hread]
  · rw [← Option.some.inj (hlookup.symm.trans he), hdefault]

include h in
/-- A constant that is written in any of its spellings. -/
theorem orElse_of_constant {spellings : α → List String} (write : α → Value)
    (hwrite : ∀ b, ∃ s ∈ spellings b, write b = .text s)
    (hread : ∀ b, ∀ s ∈ spellings b, item (.text s) = some b)
    (hspells : ∀ v w, Spells key v w ↔ ∃ b, ∃ s ∈ spellings b, v = write b ∧ w = .text s)
    (hlookup : ({} : GeneratorConfig).toFields.lookup key = some (write fallback))
    (hmem : (key, write a) ∈ c.toFields) : gs.orElse key fallback item = some a := by
  have hwritten (b : α) : item (write b) = some b := by
    obtain ⟨s, hs, hb⟩ := hwrite b
    rw [hb, hread b s hs]
  obtain ⟨s, hs, ha⟩ := hwrite a
  refine Fields.Abridges.orElse h c.nodup_toFields key ((hspells _ _).2 ⟨a, s, hs, rfl, ha⟩)
    (fun w hw => ?_) (fun d hd => ?_) hmem
  · obtain ⟨b, t, ht, hb, rfl⟩ := (hspells _ _).1 hw
    rw [hread b t ht, ← hwritten b, ← hb, hwritten]
  · rw [← Option.some.inj (hlookup.symm.trans hd), hwritten]

include h in
/-- A part whose own fields may be left out where they have their defaults. -/
theorem orElse_of_part (fields : α → Fields)
    (hread : ∀ b fs, Fields.Abridges Unchanged (fields fallback) (fields b) fs →
      item (.record fs) = some b)
    (hspells : ∀ v w, Spells key v w ↔ ∃ fs gs, v = .record fs ∧ w = .record gs ∧
      Fields.Abridges Unchanged (fields fallback) fs gs)
    (hlookup : ({} : GeneratorConfig).toFields.lookup key = some (.record (fields fallback)))
    (hmem : (key, .record (fields a)) ∈ c.toFields) : gs.orElse key fallback item = some a := by
  have hrefl (fs : Fields) : Fields.Abridges Unchanged (fields fallback) fs fs :=
    .refl fun _ _ => rfl
  refine Fields.Abridges.orElse h c.nodup_toFields key ((hspells _ _).2 ⟨_, _, rfl, rfl, hrefl _⟩)
    (fun w hw => ?_) (fun d hd => ?_) hmem
  · obtain ⟨fs, gs, hfs, rfl, habridges⟩ := (hspells _ _).1 hw
    obtain rfl := Value.record.inj hfs
    exact hread a gs habridges
  · rw [← Option.some.inj (hlookup.symm.trans hd)]
    exact hread fallback _ (hrefl _)

include h in
/-- A field that is written only where it is set. -/
theorem optional_of_set (write : α → Value) {o : Option α}
    (hplain : ∀ v w, Spells key v w ↔ w = v)
    (hread : ∀ b, (write b).nullable? item = some (some b))
    (hlookup : ({} : GeneratorConfig).toFields.lookup key = none)
    (hset : ∀ b, o = some b → (key, write b) ∈ c.toFields)
    (hunset : o = none → key ∉ c.toFields.map Prod.fst) : gs.optional key item = some o := by
  cases o with
  | none =>
    rw [Fields.optional, Fields.Abridges.lookup_eq_none h (hunset rfl)]
  | some b =>
    refine Fields.Abridges.optional h c.nodup_toFields key ((hplain _ _).2 rfl) (fun w hw => ?_)
      (fun d hd => ?_) (hset b rfl)
    · rw [(hplain _ w).1 hw, hread]
    · rw [hlookup] at hd
      contradiction

end Fields

theorem ofFields?_abridges {c : GeneratorConfig} {gs : Fields} (h : c.Abridges gs) :
    ofFields? .json gs = some c := by
  have hflag (key : String) {b fallback : Bool} (hplain : ∀ v w, Spells key v w ↔ w = v)
      (hmem : (key, .bool b) ∈ c.toFields)
      (hlookup : ({} : GeneratorConfig).toFields.lookup key = some (.bool fallback)) :
      gs.orElse key fallback Value.asBool? = some b :=
    orElse_of_plain h key hplain rfl hlookup rfl hmem
  have htext (key : String) {s fallback : String} (hplain : ∀ v w, Spells key v w ↔ w = v)
      (hmem : (key, .text s) ∈ c.toFields)
      (hlookup : ({} : GeneratorConfig).toFields.lookup key = some (.text fallback)) :
      gs.orElse key fallback Value.asText? = some s :=
    orElse_of_plain h key hplain rfl hlookup rfl hmem
  have hstyle (key : String) (style : Casing) {fallback : Casing}
      (hspells : ∀ v w, Spells key v w ↔
        ∃ b : Casing, ∃ s ∈ b.name :: b.aliases, v = b.toValue ∧ w = .text s)
      (hmem : (key, style.toValue) ∈ c.toFields)
      (hlookup : ({} : GeneratorConfig).toFields.lookup key = some fallback.toValue) :
      gs.orElse key fallback (Casing.ofValue? .json) = some style :=
    orElse_of_constant h key Casing.toValue (fun b => ⟨b.name, List.mem_cons_self, rfl⟩)
      (fun b _ hs => Casing.ofValue?_spelling .json b hs) hspells hlookup hmem
  have hfilter (key : String) {o : Option FilterSpec} (hplain : ∀ v w, Spells key v w ↔ w = v)
      (hset : ∀ b, o = some b → (key, b.toValue) ∈ c.toFields)
      (hunset : o = none → key ∉ c.toFields.map Prod.fst)
      (hlookup : ({} : GeneratorConfig).toFields.lookup key = none) :
      gs.optional key FilterSpec.ofValue? = some o :=
    optional_of_set h key FilterSpec.toValue hplain FilterSpec.nullable?_toValue hlookup hset hunset
  have hconnection : gs.orElse "connection" {} (ConnectionConfig.ofValue? .json) =
      some c.connection :=
    orElse_of_part h "connection" ConnectionConfig.toFields
      (fun b fs hfs => ConnectionConfig.ofFields?_abridges hfs) (fun v w => Iff.rfl) rfl
      (by simp [toFields, ConnectionConfig.toValue_eq])
  have htransforms : gs.orElse "string_transforms" {} (StringTransforms.ofValue? .json) =
      some c.stringTransforms :=
    orElse_of_part h "string_transforms" StringTransforms.toFields
      (fun b fs hfs => StringTransforms.ofFields?_abridges hfs) (fun v w => Iff.rfl) rfl
      (by simp [toFields, StringTransforms.toValue_eq])
  have hincluding : gs.optional "include" FilterSpec.ofValue? = some c.filter.including :=
    hfilter "include" (fun _ _ => Iff.rfl)
      (fun b hb => by simp [toFields, FilterConfig.toFields, hb])
      (fun hb => by simp [toFields, FilterConfig.toFields, hb]) rfl
  have hexcluding : gs.optional "exclude" FilterSpec.ofValue? = some c.filter.excluding :=
    hfilter "exclude" (fun _ _ => Iff.rfl)
      (fun b hb => by simp [toFields, FilterConfig.toFields, hb])
      (fun hb => by simp [toFields, FilterConfig.toFields, hb]) rfl
  have hlocation : gs.optional "json_schema_import_location" Value.asText? =
      some c.jsonSchemaImportLocation :=
    optional_of_set h "json_schema_import_location" Value.text (fun _ _ => Iff.rfl)
      (fun _ => rfl) rfl (fun b hb => by simp [toFields, hb])
      (fun hb => by simp [toFields, FilterConfig.toFields, hb])
  have hdialect : gs.orElse "dialect" .default (Dialect.ofValue? .json) = some c.dialect :=
    orElse_of_constant h "dialect" Dialect.toValue
      (fun d => ⟨d.name, List.mem_cons_self, rfl⟩)
      (fun d _ hs => Dialect.ofValue?_spelling .json d hs) (fun _ _ => Iff.rfl) rfl
      (by simp [toFields])
  simp only [ofFields?, FilterConfig.ofFields?, hconnection, htransforms, hincluding, hexcluding,
    hlocation, hdialect,
    htext "schema" (s := c.schema) (fun _ _ => Iff.rfl) (by simp [toFields]) rfl,
    hstyle "field_name_casing" c.fieldNameCasing (fun _ _ => Iff.rfl)
      (by simp [toFields]) rfl,
    hstyle "object_name_casing" c.objectNameCasing (fun _ _ => Iff.rfl)
      (by simp [toFields]) rfl,
    hflag "stringify_json" (b := c.stringifyJson) (fun _ _ => Iff.rfl) (by simp [toFields]) rfl,
    hflag "stringify_dates" (b := c.stringifyDates) (fun _ _ => Iff.rfl) (by simp [toFields]) rfl,
    hflag "default_empty_array" (b := c.defaultEmptyArray) (fun _ _ => Iff.rfl)
      (by simp [toFields]) rfl,
    hflag "singularize" (b := c.singularize) (fun _ _ => Iff.rfl) (by simp [toFields]) rfl,
    hflag "non_negative_numbers" (b := c.nonNegativeNumbers) (fun _ _ => Iff.rfl)
      (by simp [toFields]) rfl,
    htext "output_dir" (s := c.outputDir) (fun _ _ => Iff.rfl) (by simp [toFields]) rfl,
    hflag "clean_output" (b := c.cleanOutput) (fun _ _ => Iff.rfl) (by simp [toFields]) rfl,
    hflag "debug" (b := c.debug) (fun _ _ => Iff.rfl) (by simp [toFields]) rfl]
  rfl

/-- The spellings of a value nest no deeper than the value. -/
theorem Spells.plain {key : String} {v w : Value} {depth : Nat} (h : Spells key v w)
    (hv : Json.Plain depth v) : Json.Plain depth w := by
  have hpart {defaults fs gs : Fields} (hpart : Fields.Abridges Unchanged defaults fs gs)
      (hplain : Json.Plain depth (.record fs)) : Json.Plain depth (.record gs) := by
    cases hplain with
    | record hfs => exact .record (hpart.forall_mem fun f hf w hw => hw ▸ hfs f hf)
  unfold Spells at h
  split at h
  · obtain ⟨fs, gs, rfl, rfl, habridges⟩ := h
    exact hpart habridges hv
  · obtain ⟨fs, gs, rfl, rfl, habridges⟩ := h
    exact hpart habridges hv
  · obtain ⟨-, s, -, -, rfl⟩ := h
    exact .text s
  · obtain ⟨-, s, -, -, rfl⟩ := h
    exact .text s
  · obtain ⟨-, s, -, -, rfl⟩ := h
    exact .text s
  · exact h ▸ hv

theorem Abridges.plain {c : GeneratorConfig} {gs : Fields} (h : c.Abridges gs) (depth : Nat)
    (hplain : Json.Plain (depth + 2) c.toValue) : Json.Plain (depth + 2) (.record gs) := by
  have hfields : ∀ f ∈ c.toFields, Json.Plain (depth + 1) f.2 := by
    cases hplain with
    | record hfs => exact hfs
  exact .record (Fields.Abridges.forall_mem h fun f hf w hw => hw.plain (hfields f hf))

theorem plain_toValue (depth : Nat) (c : GeneratorConfig) : Json.Plain (depth + 2) c.toValue := by
  have hport : Json.Plain depth (.int c.connection.port.toNat) := by
    have hbound := c.connection.port.toNat_lt
    exact Json.plain_int (by omega)
  have hconnection : Json.Plain (depth + 1) c.connection.toValue := by
    refine .record ?_
    simp only [List.forall_mem_cons]
    exact ⟨plain_ofText? _ _, hport, plain_ofText? _ _, plain_ofText? _ _, plain_ofText? _ _,
      plain_ofText? _ _, plain_ofText? _ _, nofun⟩
  have htransforms : Json.Plain (depth + 1) c.stringTransforms.toValue := by
    refine .record ?_
    simp only [List.forall_mem_cons]
    exact ⟨.bool _, .bool _, .bool _, .bool _, nofun⟩
  have hfilter : ∀ f ∈ c.filter.toFields, Json.Plain (depth + 1) f.2 := by
    have hspec (key : String) (o : Option FilterSpec) :
        ∀ f ∈ (o.map fun s => (key, s.toValue)).toList, Json.Plain (depth + 1) f.2 := by
      cases o with
      | none => exact nofun
      | some s => exact List.forall_mem_singleton.2 (s.plain_toValue depth)
    exact List.forall_mem_append.2 ⟨hspec _ _, hspec _ _⟩
  have hlocation : ∀ f ∈ (c.jsonSchemaImportLocation.map fun s =>
      ("json_schema_import_location", Value.text s)).toList, Json.Plain (depth + 1) f.2 := by
    cases c.jsonSchemaImportLocation with
    | none => exact nofun
    | some s => exact List.forall_mem_singleton.2 (.text s)
  refine .record ?_
  simp only [toFields, List.forall_mem_append, List.forall_mem_cons]
  exact ⟨⟨⟨⟨⟨hconnection, .text _, nofun⟩, hfilter⟩, .text _, .text _, .text _, nofun⟩, hlocation⟩,
    .bool _, .bool _, .bool _, .bool _, htransforms, .bool _, .text _, .bool _, .bool _, nofun⟩

/-- A record that nests no deeper than any may is read from its texts. -/
theorem ofJson?_of_holds {gs : Fields} {text : String} {c : GeneratorConfig}
    (hplain : Json.Plain 127 (.record gs)) (htext : Json.Holds text (.record gs))
    (hread : ofFields? .json gs = some c) : ofJson? text = some c := by
  have hfields : ∀ f ∈ gs, Json.withinLimits 126 f.2 = true := by
    cases hplain with
    | record h => exact fun f hf => (h f hf).withinLimits
  have hothers : ((gs.filter fun f => !ownKeys.contains f.1).all fun f =>
      Json.withinLimits 126 f.2) = true :=
    List.all_eq_true.2 fun f hf => hfields f (List.mem_of_mem_filter hf)
  rw [ofJson?, Json.tree?_of_holds htext]
  simp only [Option.bind_eq_bind, Option.bind_some, Value.named?, Json.nestingLimit, hothers,
    if_true, hread]

theorem abridges_self (c : GeneratorConfig) : c.Abridges c.toFields := by
  have hpart {defaults fs : Fields} : Fields.Abridges Unchanged defaults fs fs :=
    .refl fun _ _ => rfl
  have hfilter : ∀ f ∈ c.filter.toFields, Spells f.1 f.2 f.2 := by
    refine List.forall_mem_append.2 ⟨?_, ?_⟩
    · cases c.filter.including with
      | none => exact nofun
      | some s => exact List.forall_mem_singleton.2 rfl
    · cases c.filter.excluding with
      | none => exact nofun
      | some s => exact List.forall_mem_singleton.2 rfl
  have hlocation : ∀ f ∈ (c.jsonSchemaImportLocation.map fun s =>
      ("json_schema_import_location", Value.text s)).toList, Spells f.1 f.2 f.2 := by
    cases c.jsonSchemaImportLocation with
    | none => exact nofun
    | some s => exact List.forall_mem_singleton.2 rfl
  refine .refl ?_
  simp only [toFields, List.forall_mem_append, List.forall_mem_cons]
  exact ⟨⟨⟨⟨⟨⟨_, _, rfl, rfl, hpart⟩, rfl, nofun⟩, hfilter⟩,
    ⟨_, _, List.mem_cons_self, rfl, rfl⟩, ⟨_, _, List.mem_cons_self, rfl, rfl⟩,
    ⟨_, _, List.mem_cons_self, rfl, rfl⟩, nofun⟩, hlocation⟩,
    rfl, rfl, rfl, rfl, ⟨_, _, rfl, rfl, hpart⟩, rfl, rfl, rfl, rfl, nofun⟩

/-- A configuration is what its JSON holds, on one line or indented, also where fields with their
defaults are left out of it or its parts, and case styles and the dialect have other spellings. -/
theorem ofJson?_abridged (c : GeneratorConfig) :
    ofJson? c.toValue.compact = some c ∧ ofJson? (c.toValue.pretty 0) = some c ∧
      ∀ gs, c.Abridges gs → ofValue? .json (.record gs) = some c ∧
        ofJson? (Value.record gs).compact = some c ∧ ofJson? ((Value.record gs).pretty 0) = some c ∧
        ∀ text, Json.Holds text (.record gs) → ofJson? text = some c := by
  have hplain {gs : Fields} (hgs : c.Abridges gs) : Json.Plain 127 (.record gs) :=
    hgs.plain 125 (c.plain_toValue 125)
  have hread {gs : Fields} (hgs : c.Abridges gs) {text : String}
      (htext : Json.Holds text (.record gs)) : ofJson? text = some c :=
    ofJson?_of_holds (hplain hgs) htext (ofFields?_abridges hgs)
  have hself : c.Abridges c.toFields := c.abridges_self
  refine ⟨hread hself (hplain hself).holds_compact, hread hself ((hplain hself).holds_pretty 0),
    fun gs hgs => ⟨ofFields?_abridges hgs, ?_, ?_, fun text htext => hread hgs htext⟩⟩
  · exact hread hgs (hplain hgs).holds_compact
  · exact hread hgs ((hplain hgs).holds_pretty 0)

/-- A connection without its port, a style and a dialect in other spellings, a filter without
names, and no transforms. -/
theorem ofJson?_abridged_kebab :
    let c : GeneratorConfig := {
      connection := { host := some "localhost" }
      filter := { including := some (.pattern "^a"), excluding := some (.names []) }
      fieldNameCasing := .kebab
      dialect := .zod4Mini }
    let gs : Fields := [("connection", .record [("host", .text "localhost"), ("user", .null)]),
      ("include", .text "^a"), ("exclude", .list []), ("field_name_casing", .text "kebab-case"),
      ("dialect", .text "4-mini"), ("singularize", .bool true)]
    c.Abridges gs ∧ ofJson? (Value.record gs).compact = some c := by
  intro c gs
  have hconnection : Fields.Abridges Unchanged ({} : ConnectionConfig).toFields
      c.connection.toFields [("host", .text "localhost"), ("user", .null)] :=
    .keep rfl (.drop rfl (.drop rfl (.keep rfl (.drop rfl (.drop rfl (.drop rfl .nil))))))
  have hgs : c.Abridges gs :=
    .keep ⟨_, _, rfl, rfl, hconnection⟩ (.drop rfl (.keep rfl (.keep rfl
      (.keep ⟨.kebab, _, by decide, rfl, rfl⟩ (.drop rfl
        (.keep ⟨.zod4Mini, _, by decide, rfl, rfl⟩ (.drop rfl (.drop rfl (.drop rfl
          (.keep rfl (.drop rfl (.drop rfl (.drop rfl (.drop rfl (.drop rfl .nil)))))))))))))))
  exact ⟨hgs, ((ofJson?_abridged c).2.2 gs hgs).2.1⟩

end GeneratorConfig

end ZodCatalog
