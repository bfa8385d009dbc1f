import Mathlib.Tactic.ByContra
import ZodCatalog.Connection.Options
import ZodCatalog.Connection.Redaction

/-! What a log names as the target of a connection, and what the connection is opened with. Both
look at the connection string first, and they agree on when it is there, unless it is blank. -/

namespace ZodCatalog

namespace Redaction
open Text

theorem cutScheme_of_not_mem {s : List Char} (h : ':' ∉ s) : cutScheme s = none := by
  induction s with
  | nil => rfl
  | cons c s ih =>
    have hc : c ≠ ':' := fun heq => h (heq ▸ List.mem_cons_self)
    have hrest := ih fun hmem => h (List.mem_cons_of_mem _ hmem)
    rw [cutScheme]
    split
    · next heq => exact absurd (List.cons.inj heq).1 hc
    · rw [hrest]
      rfl

/-- A text without the signs that lead to secrets is logged as it is. -/
theorem redact_eq_self {s : String} (hscheme : ':' ∉ s.toList) (hquery : '?' ∉ s.toList) :
    redact s = s := by
  rw [redact, maskPassword, cutScheme_of_not_mem hscheme]
  dsimp only
  rw [maskQuery, cutFirst_of_none (beq_eq_false_of_not_mem hquery), String.ofList_toList]

theorem redact_of_allBlank {s : String} (h : allBlank s.toList = true) : redact s = s := by
  have hblank := List.all_eq_true.1 h
  refine redact_eq_self (fun hmem => ?_) fun hmem => ?_
  · exact absurd (hblank ':' hmem) (by decide)
  · exact absurd (hblank '?' hmem) (by decide)

end Redaction

namespace ConnectionConfig
open Redaction Text

/-- The connection string, and not a field beside it, decides on the options. -/
def TakesString (c : ConnectionConfig) : Prop :=
  ∀ (machine : ConnectOptions) (d e : ConnectionConfig), d.connectionString = c.connectionString →
    e.connectionString = c.connectionString → d.sslMode = e.sslMode →
    d.options machine = e.options machine

/-- The description is the connection string without its secrets. -/
def DescribesString (c : ConnectionConfig) : Prop :=
  ∃ s, c.connectionString = some s ∧ c.describe = redact s

/-- The mode that the fields give. -/
def mode (c : ConnectionConfig) (machine : ConnectOptions) : Except Error SslMode :=
  match c.sslMode with
  | none => .ok machine.sslMode
  | some text =>
    match SslMode.ofText? text with
    | some m => .ok m
    | none => .error (.configuration (.invalidSslMode text))

/-- Options from discrete fields. -/
structure UsesFields (c : ConnectionConfig) (host database user : String) : Prop where
  host_eq : c.host = some host
  database_eq : c.database = some database
  user_eq : c.user = some user
  options_eq : ∀ machine, c.options machine = (c.mode machine).map fun m =>
    { host, port := c.port, user, database := some database, sslMode := m }

/-- The text that names a target; a password is shown as a mask. -/
def targetText (host : String) (port : UInt16) (database user : String) (masked : Bool) : String :=
  "postgres://" ++ (user ++ if masked then ":***@" else "@") ++ host ++ ":" ++
    toString port.toNat ++ "/" ++ database

variable {c d : ConnectionConfig} {s : String}

theorem isPresent_iff {value : Option String} :
    isPresent value = true ↔ ∃ s, value = some s ∧ allBlank s.toList = false := by
  cases value with
  | none => simp [isPresent]
  | some s => simp [isPresent]

theorem url?_of_not_blank (hstring : c.connectionString = some s)
    (h : allBlank s.toList = false) : c.url? = some s := by
  rw [url?, hstring, Option.filter_some, h]
  rfl

theorem url?_of_blank (hstring : c.connectionString = some s) (h : allBlank s.toList = true) :
    c.url? = none := by
  rw [url?, hstring, Option.filter_some, h]
  rfl

theorem url?_congr (h : d.connectionString = c.connectionString) : d.url? = c.url? := by
  rw [url?, url?, h]

/-- A configuration that passes has a connection string or all of the fields. -/
theorem validate_eq_ok_iff : c.validate = .ok () ↔
    c.url?.isSome = true ∨ ∀ value ∈ [c.host, c.database, c.user], isPresent value = true := by
  have hfields : c.missingFields = [] ↔
      ∀ value ∈ [c.host, c.database, c.user], isPresent value = true := by
    simp [missingFields, List.filterMap_eq_nil_iff]
  rw [← hfields, validate]
  split
  · next hurl => exact iff_of_true rfl (.inl hurl)
  · next hurl =>
    cases c.missingFields with
    | nil => exact iff_of_true rfl (.inr rfl)
    | cons name names => simp [hurl]

theorem options_of_fields (h : c.url? = none) (machine : ConnectOptions) : c.options machine =
    (c.mode machine).map fun m => { c.fieldOptions machine with sslMode := m } := by
  have hbase : c.baseOptions machine = .ok (c.fieldOptions machine) := by rw [baseOptions, h]
  rw [options, hbase, mode]
  cases hmode : c.sslMode with
  | none => rfl
  | some text =>
    cases hread : SslMode.ofText? text with
    | none => simp [hread, bind, Except.bind, Except.map, throw, throwThe, MonadExceptOf.throw]
    | some m => simp [hread, bind, Except.bind, Except.map, pure, Except.pure]

/-- Without a connection string the port is a field, so the options change with it. -/
theorem takesString_iff : c.TakesString ↔ c.url?.isSome = true := by
  refine ⟨fun htakes => ?_, fun hsome machine d e hd he hmode => ?_⟩
  · by_contra hsome
    have hnone : c.url? = none := by simpa using hsome
    let withPort (port : UInt16) : ConnectionConfig :=
      { port, connectionString := c.connectionString }
    have hurl (port : UInt16) : (withPort port).url? = none := (url?_congr rfl).trans hnone
    have hsame := htakes (.ofUser "root") (withPort 0) (withPort 1) rfl rfl rfl
    rw [options_of_fields (hurl 0), options_of_fields (hurl 1)] at hsame
    have hport : (0 : UInt16) = 1 := congrArg ConnectOptions.port (Except.ok.inj hsame)
    exact absurd hport (by decide)
  · obtain ⟨s, hs⟩ := Option.isSome_iff_exists.1 hsome
    have hbase : d.baseOptions machine = e.baseOptions machine := by
      rw [baseOptions, baseOptions, url?_congr hd, url?_congr he, hs]
    rw [options, options, hbase, hmode]

theorem describesString_iff : c.DescribesString ↔ c.connectionString.isSome = true := by
  rw [DescribesString, describe]
  cases c.connectionString with
  | none => simp
  | some s => simp

/-- Where the fields are used, they are all there. -/
theorem exists_usesFields (hvalid : c.validate = .ok ()) (h : c.url? = none) :
    ∃ host database user, c.UsesFields host database user ∧ user ≠ "" := by
  have hpresent := (validate_eq_ok_iff.1 hvalid).resolve_left (by simp [h])
  have hfield {value : Option String} (hmem : value ∈ [c.host, c.database, c.user]) :
      ∃ s, value = some s ∧ allBlank s.toList = false := isPresent_iff.1 (hpresent value hmem)
  obtain ⟨host, hhost, -⟩ := hfield (by simp : c.host ∈ _)
  obtain ⟨database, hdatabase, -⟩ := hfield (by simp : c.database ∈ _)
  obtain ⟨user, huser, hfull⟩ := hfield (by simp : c.user ∈ _)
  refine ⟨host, database, user, ⟨hhost, hdatabase, huser, fun machine => ?_⟩, ?_⟩
  · rw [options_of_fields h, fieldOptions, hhost, hdatabase, huser]
    rfl
  · rintro rfl
    exact absurd hfull (by decide)

theorem UsesFields.describe_eq {host database user : String}
    (h : c.UsesFields host database user) (hstring : c.connectionString = none)
    (huser : user ≠ "") :
    c.describe = targetText host c.port database user c.password.isSome := by
  rw [describe, hstring, loginText, h.host_eq, h.database_eq, h.user_eq, targetText]
  simp only [Option.getD_some, if_neg huser]
  split <;> rfl

/-- The target that is logged is the one that is connected to, exactly if the connection string is
not a blank one. A blank string counts as missing where the options are made, which come from the
fields then, but the description is that blank string. -/
theorem describe_target_iff (c : ConnectionConfig) (hvalid : c.validate = .ok ()) :
    ((c.DescribesString ↔ c.TakesString) ∧
      (¬ c.TakesString → ∃ host database user, c.UsesFields host database user ∧
        c.describe = targetText host c.port database user c.password.isSome) ↔
      ∀ s, c.connectionString = some s → allBlank s.toList = false) ∧
    ∀ s, c.connectionString = some s → allBlank s.toList = true →
      c.describe = s ∧ ∃ host database user, c.UsesFields host database user := by
  have hblank {s : String} (hstring : c.connectionString = some s)
      (h : allBlank s.toList = true) : c.DescribesString ∧ ¬ c.TakesString := by
    rw [describesString_iff, takesString_iff, url?_of_blank hstring h, hstring]
    exact ⟨rfl, nofun⟩
  refine ⟨⟨fun hagrees s hstring => ?_, fun hfull => ?_⟩, fun s hstring h => ?_⟩
  · rw [Bool.eq_false_iff]
    intro h
    exact (hblank hstring h).2 (hagrees.1.1 (hblank hstring h).1)
  · cases hstring : c.connectionString with
    | none =>
      have hnone : c.url? = none := by rw [url?, hstring, Option.filter_none]
      obtain ⟨host, database, user, huses, huser⟩ := exists_usesFields hvalid hnone
      refine ⟨?_, fun _ => ⟨host, database, user, huses, huses.describe_eq hstring huser⟩⟩
      rw [describesString_iff, takesString_iff, hstring, hnone]
    | some s =>
      have hurl := url?_of_not_blank hstring (hfull s hstring)
      have htakes : c.TakesString := by rw [takesString_iff, hurl, Option.isSome_some]
      refine ⟨iff_of_true ?_ htakes, fun hnot => absurd htakes hnot⟩
      rw [describesString_iff, hstring, Option.isSome_some]
  · obtain ⟨host, database, user, huses, -⟩ := exists_usesFields hvalid (url?_of_blank hstring h)
    refine ⟨?_, host, database, user, huses⟩
    rw [describe, hstring]
    exact redact_of_allBlank h

/-- A configuration with both, and one that has the fields alone. -/
theorem describe_target_iff_both :
    let c : ConnectionConfig := {
      host := some "db", database := some "app", user := some "svc", password := some "x"
      connectionString := some " postgres://u:p@h/d" }
    let d : ConnectionConfig := { c with connectionString := none }
    c.validate = .ok () ∧ d.validate = .ok () ∧
      (c.DescribesString ∧ c.TakesString) ∧ ¬ d.TakesString ∧
      d.describe = "postgres://svc:***@db:5432/app" ∧ ∃ host database user,
        d.UsesFields host database user ∧ d.describe = targetText host 5432 database user true := by
  intro c d
  have hc : c.validate = .ok () := rfl
  have hd : d.validate = .ok () := rfl
  have hstring : ∀ s, c.connectionString = some s → allBlank s.toList = false := by
    rintro s ⟨⟩
    decide
  have hboth := ((describe_target_iff c hc).1.2 hstring).1
  have hfields := ((describe_target_iff d hd).1.2 nofun).2
  have htakes : c.TakesString := hboth.1 ⟨_, rfl, rfl⟩
  have hnot : ¬ d.TakesString := mt takesString_iff.1 (by decide +kernel)
  exact ⟨hc, hd, ⟨hboth.2 htakes, htakes⟩, hnot, by decide +kernel, hfields hnot⟩

/-- A blank string is logged, while the connection goes to the host of the fields. -/
theorem describe_blank_string :
    let c : ConnectionConfig := {
      host := some "db", database := some "app", user := some "svc"
      connectionString := some " " }
    c.validate = .ok () ∧ c.options = .ok ⟨"db", 5432, "svc", some "app", .prefer⟩ ∧
      c.describe = " " ∧ ¬ (c.DescribesString ↔ c.TakesString) := by
  intro c
  have hnot : ¬ c.TakesString := mt takesString_iff.1 (by decide +kernel)
  have hdescribes : c.DescribesString := ⟨" ", rfl, rfl⟩
  exact ⟨rfl, rfl, by decide +kernel, fun h => hnot (h.1 hdescribes)⟩

end ConnectionConfig
end ZodCatalog
