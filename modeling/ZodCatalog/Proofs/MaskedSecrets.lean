import Mathlib.Data.List.Forall2
import ZodCatalog.Connection.Redaction

/-! What a log shows of a connection does not depend on its secrets. A password may hold the very
characters that the search for it looks for; what the other parts cannot hold is enough to find its
ends. -/

namespace ZodCatalog
namespace Redaction
open Text

/-- A piece of a query: a name alone, or a key and its value. -/
inductive Parameter where
  | flag (name : List Char) (hname : '=' ∉ name ∧ '&' ∉ name)
  | setting (key value : List Char) (hkey : '=' ∉ key ∧ '&' ∉ key) (hvalue : '&' ∉ value)

namespace Parameter

def text : Parameter → List Char
  | flag name _ => name
  | setting key value .. => key ++ '=' :: value

def masked : Parameter → List Char
  | flag name _ => name
  | setting key value .. => key ++ '=' :: if isSensitive key then mask else value

/-- Two pieces of which at most the value of one sensitive key differs. -/
inductive SameButSecret : Parameter → Parameter → Prop
  | same (q : Parameter) : SameButSecret q q
  | secret {key v w : List Char} (hkey : '=' ∉ key ∧ '&' ∉ key) (hv : '&' ∉ v) (hw : '&' ∉ w)
      (h : isSensitive key = true) : SameButSecret (setting key v hkey hv) (setting key w hkey hw)

theorem separator_not_mem_text (q : Parameter) : '&' ∉ q.text := by
  cases q with
  | flag name hname => exact hname.2
  | setting key value hkey hvalue => simp [text, hkey.2, hvalue]

theorem maskParameter_text (q : Parameter) : maskParameter q.text = q.masked := by
  cases q with
  | flag name hname =>
    rw [text, maskParameter, cutFirst_of_none (beq_eq_false_of_not_mem hname.1)]
    rfl
  | setting key value hkey hvalue =>
    have hcut := cutFirst_append (beq_eq_false_of_not_mem hkey.1) (beq_self_eq_true '=') value
    rw [text, maskParameter, hcut]
    by_cases h : isSensitive key = true
    · simp [masked, h]
    · simp [masked, h]

theorem SameButSecret.masked_eq {q r : Parameter} (h : SameButSecret q r) :
    q.masked = r.masked := by
  cases h with
  | same => rfl
  | secret hkey hv hw h => simp [masked, h]

theorem map_masked_eq {qs rs : List Parameter} (h : List.Forall₂ SameButSecret qs rs) :
    qs.map masked = rs.map masked := by
  induction h with
  | nil => rfl
  | cons hq _ ih => rw [List.map_cons, List.map_cons, hq.masked_eq, ih]

theorem exists_text_eq {s : List Char} (h : '&' ∉ s) : ∃ q : Parameter, q.text = s := by
  by_cases heq : '=' ∈ s
  · obtain ⟨key, value, rfl, hkey⟩ := List.eq_append_cons_of_mem heq
    have hparts : '&' ∉ key ∧ '&' ∉ value := by simpa using h
    exact ⟨setting key value ⟨hkey, hparts.1⟩ hparts.2, rfl⟩
  · exact ⟨flag s ⟨heq, h⟩, rfl⟩

theorem exists_map_text_eq {pieces : List (List Char)} (h : ∀ piece ∈ pieces, '&' ∉ piece) :
    ∃ qs : List Parameter, qs.map text = pieces := by
  induction pieces with
  | nil => exact ⟨[], rfl⟩
  | cons piece pieces ih =>
    obtain ⟨q, hq⟩ := exists_text_eq (h piece List.mem_cons_self)
    obtain ⟨qs, hqs⟩ := ih fun p hp => h p (List.mem_cons_of_mem _ hp)
    exact ⟨q :: qs, by rw [List.map_cons, hq, hqs]⟩

end Parameter

/-- The parts of a connection string with a password. -/
structure Locator where
  scheme : List Char
  user : List Char
  password : List Char
  host : List Char
  path : List Char
  query : Option (List Parameter)
  hscheme : ':' ∉ scheme ∧ '?' ∉ scheme
  huser : ':' ∉ user ∧ '@' ∉ user ∧ '/' ∉ user ∧ '?' ∉ user
  hpassword : '/' ∉ password ∧ '?' ∉ password
  hhost : '@' ∉ host ∧ '/' ∉ host ∧ '?' ∉ host
  hpath : '?' ∉ path ∧ ∀ c ∈ path.head?, c = '/'

namespace Locator

variable (u v : Locator)

def queryWith (write : Parameter → List Char) : List Char :=
  match u.query with
  | none => []
  | some qs => '?' :: joinWith ['&'] (qs.map write)

/-- The parts put together around a password. -/
def textWith (password : List Char) (write : Parameter → List Char) : List Char :=
  u.scheme ++ "://".toList ++ (u.user ++ ':' :: password ++ '@' :: u.host) ++
    (u.path ++ u.queryWith write)

def text : List Char := u.textWith u.password Parameter.text

def masked : List Char := u.textWith mask Parameter.masked

/-- Two locators that differ in their passwords and the values of sensitive keys at most. -/
structure SameButSecrets : Prop where
  scheme : u.scheme = v.scheme
  user : u.user = v.user
  host : u.host = v.host
  path : u.path = v.path
  query : Option.Rel (List.Forall₂ Parameter.SameButSecret) u.query v.query

end Locator

theorem joinWith_maskParameter (qs : List Parameter) :
    joinWith ['&'] ((splitOnChar '&' (joinWith ['&'] (qs.map Parameter.text))).map maskParameter) =
      joinWith ['&'] (qs.map Parameter.masked) := by
  cases qs with
  | nil =>
    -- A query without text is cut into one piece, which is empty and stays so.
    rfl
  | cons q qs =>
    have hpieces : ∀ piece ∈ (q :: qs).map Parameter.text, '&' ∉ piece := by
      simp [Parameter.separator_not_mem_text]
    have hmask : maskParameter ∘ Parameter.text = Parameter.masked :=
      funext Parameter.maskParameter_text
    rw [splitOnChar_joinWith (by simp) hpieces, List.map_map, hmask]

theorem cutScheme_append {s : List Char} (h : ':' ∉ s) (t : List Char) :
    cutScheme (s ++ "://".toList ++ t) = some (s ++ "://".toList, t) := by
  induction s with
  | nil => rfl
  | cons c s ih =>
    have hc : c ≠ ':' := fun heq => h (heq ▸ List.mem_cons_self)
    have hrest := ih fun hmem => h (List.mem_cons_of_mem _ hmem)
    rw [List.cons_append, List.cons_append, cutScheme]
    split
    · next heq => exact absurd (List.cons.inj heq).1 hc
    · rw [hrest]
      rfl

theorem maskAuthority_login {user host : List Char} (huser : ':' ∉ user) (hhost : '@' ∉ host)
    (password : List Char) : maskAuthority (user ++ ':' :: password ++ '@' :: host) =
      user ++ ':' :: mask ++ '@' :: host := by
  -- The last at sign is the one before the host, and the first colon the one after the user.
  have hlast := cutLast_append (beq_eq_false_of_not_mem hhost) (beq_self_eq_true '@')
    (user ++ ':' :: password)
  have hfirst := cutFirst_append (beq_eq_false_of_not_mem huser) (beq_self_eq_true ':') password
  rw [maskAuthority, hlast]
  simp [hfirst]

theorem endsAuthority_eq_false {s : List Char} (h : '/' ∉ s ∧ '?' ∉ s) :
    ∀ c ∈ s, (!endsAuthority c) = true := by
  intro c hc
  have hslash := beq_eq_false_of_not_mem h.1 c hc
  have hmark := beq_eq_false_of_not_mem h.2 c hc
  simp [endsAuthority, hslash, hmark]

/-- An authority is followed by a path or a query. -/
theorem endsAuthority_head {path tail : List Char} (hpath : ∀ c ∈ path.head?, c = '/')
    (htail : ∀ c ∈ tail.head?, c = '?') : ∀ c ∈ (path ++ tail).head?, endsAuthority c = true := by
  intro c hc
  cases path with
  | nil =>
    rw [htail c hc]
    rfl
  | cons d path =>
    rw [hpath c hc]
    rfl

/-- Only the authority is changed, whatever stands behind it. -/
theorem maskPassword_append {scheme authority rest : List Char} (hscheme : ':' ∉ scheme)
    (hauthority : '/' ∉ authority ∧ '?' ∉ authority)
    (hrest : ∀ c ∈ rest.head?, endsAuthority c = true) :
    maskPassword (scheme ++ "://".toList ++ (authority ++ rest)) =
      scheme ++ "://".toList ++ maskAuthority authority ++ rest := by
  have hinside := endsAuthority_eq_false hauthority
  have htail : rest.takeWhile (!endsAuthority ·) = [] ∧
      rest.dropWhile (!endsAuthority ·) = rest := by
    cases rest with
    | nil => exact ⟨rfl, rfl⟩
    | cons c r => simp [hrest c rfl]
  have hafter : (authority ++ rest).takeWhile (!endsAuthority ·) = authority ∧
      (authority ++ rest).dropWhile (!endsAuthority ·) = rest := by
    rw [List.takeWhile_append_of_pos hinside, List.dropWhile_append_of_pos hinside, htail.1,
      htail.2, List.append_nil]
    exact ⟨rfl, rfl⟩
  rw [maskPassword, cutScheme_append hscheme]
  simp only [hafter]

namespace Locator

variable (u v : Locator)

theorem queryWith_head (write : Parameter → List Char) :
    ∀ c ∈ (u.queryWith write).head?, c = '?' := by
  intro c hc
  rw [queryWith] at hc
  split at hc
  · contradiction
  · exact (Option.some.inj hc).symm

/-- Masking the password leaves everything else of the string as it is. -/
theorem maskPassword_textWith (write : Parameter → List Char) :
    maskPassword (u.textWith u.password write) = u.textWith mask write := by
  have hauthority : '/' ∉ u.user ++ ':' :: u.password ++ '@' :: u.host ∧
      '?' ∉ u.user ++ ':' :: u.password ++ '@' :: u.host := by
    simp [u.huser, u.hpassword, u.hhost]
  have hrest := endsAuthority_head u.hpath.2 (u.queryWith_head write)
  have hmask := maskAuthority_login u.huser.1 u.hhost.1 u.password
  rw [textWith, List.append_assoc, maskPassword_append u.hscheme.1 hauthority hrest, hmask]
  rfl

/-- Masking the query leaves everything in front of it as it is. -/
theorem maskQuery_textWith : maskQuery (u.textWith mask Parameter.text) = u.masked := by
  let base := u.scheme ++ "://".toList ++ (u.user ++ ':' :: mask ++ '@' :: u.host) ++ u.path
  have hbase : '?' ∉ base := by
    have hfixed : '?' ∉ "://".toList ∧ '?' ∉ mask := by decide
    simp [base, u.hscheme.2, u.huser.2.2.2, u.hhost.2.2, u.hpath.1, hfixed]
  have htext (write : Parameter → List Char) : u.textWith mask write = base ++ u.queryWith write :=
    (List.append_assoc _ u.path _).symm
  have hplain := beq_eq_false_of_not_mem hbase
  rw [masked, htext, htext, queryWith, queryWith]
  cases u.query with
  | none => rw [List.append_nil, maskQuery, cutFirst_of_none hplain]
  | some qs =>
    rw [maskQuery, cutFirst_append hplain (beq_self_eq_true '?')]
    simp [joinWith_maskParameter]

theorem redact_text : redact (String.ofList u.text) = String.ofList u.masked := by
  rw [redact, String.toList_ofList, text, maskPassword_textWith, maskQuery_textWith]

/-- Every connection string with a password in front of its host has such parts. -/
theorem exists_parts {scheme user password host rest : List Char}
    (hscheme : ':' ∉ scheme ∧ '?' ∉ scheme)
    (huser : ':' ∉ user ∧ '@' ∉ user ∧ '/' ∉ user ∧ '?' ∉ user)
    (hpassword : '/' ∉ password ∧ '?' ∉ password) (hhost : '@' ∉ host ∧ '/' ∉ host ∧ '?' ∉ host)
    (hrest : ∀ c ∈ rest.head?, c = '/' ∨ c = '?') :
    ∃ u : Locator, u.scheme = scheme ∧ u.user = user ∧ u.password = password ∧ u.host = host ∧
      u.path ++ u.queryWith Parameter.text = rest := by
  by_cases hquery : '?' ∈ rest
  -- The path ends at the first question mark, and the query after it is cut at its separators.
  · obtain ⟨path, query, rfl, hpath⟩ := List.eq_append_cons_of_mem hquery
    have hhead : ∀ c ∈ path.head?, c = '/' := by
      intro c hc
      obtain ⟨tail, rfl⟩ := List.head?_eq_some_iff.1 hc
      rcases hrest c rfl with hslash | rfl
      · exact hslash
      · exact absurd List.mem_cons_self hpath
    have hpieces : ∀ piece ∈ splitOnChar '&' query, '&' ∉ piece := by
      intro piece hpiece hmem
      simpa using not_mem_of_mem_splitWhere hpiece '&' hmem
    obtain ⟨qs, hqs⟩ := Parameter.exists_map_text_eq hpieces
    refine ⟨⟨scheme, user, password, host, path, some qs, hscheme, huser, hpassword, hhost,
      hpath, hhead⟩, rfl, rfl, rfl, rfl, ?_⟩
    show path ++ '?' :: joinWith ['&'] (qs.map Parameter.text) = path ++ '?' :: query
    rw [hqs, joinWith_splitOnChar]
  · have hhead : ∀ c ∈ rest.head?, c = '/' := by
      intro c hc
      rcases hrest c hc with hslash | rfl
      · exact hslash
      · exact absurd (List.mem_of_mem_head? hc) hquery
    exact ⟨⟨scheme, user, password, host, rest, none, hscheme, huser, hpassword, hhost,
      hquery, hhead⟩, rfl, rfl, rfl, rfl, List.append_nil rest⟩

variable {u v} in
theorem SameButSecrets.masked_eq (h : u.SameButSecrets v) : u.masked = v.masked := by
  have hquery : u.queryWith Parameter.masked = v.queryWith Parameter.masked := by
    have hrel := h.query
    unfold queryWith
    generalize u.query = q, v.query = r at hrel
    cases hrel with
    | none => rfl
    | some hpieces => simp only [Parameter.map_masked_eq hpieces]
  rw [masked, masked, textWith, textWith, h.scheme, h.user, h.host, h.path, hquery]

end Locator

end Redaction

open Redaction in
/-- Secrets have no influence on what is logged. A string with a password is logged with its
password and the values of its sensitive keys masked and with nothing else changed, whatever the
password holds. So two strings that differ in secrets alone are logged alike, as are two
configurations with such strings, and two without one that differ in a password. -/
theorem redact_hides_secrets :
    (∀ u : Locator, redact (String.ofList u.text) = String.ofList u.masked) ∧
    (∀ scheme user password host rest : List Char, ':' ∉ scheme ∧ '?' ∉ scheme →
      ':' ∉ user ∧ '@' ∉ user ∧ '/' ∉ user ∧ '?' ∉ user → '/' ∉ password ∧ '?' ∉ password →
      '@' ∉ host ∧ '/' ∉ host ∧ '?' ∉ host → (∀ c ∈ rest.head?, c = '/' ∨ c = '?') →
      ∃ u : Locator, u.scheme = scheme ∧ u.user = user ∧ u.password = password ∧ u.host = host ∧
        u.path ++ u.queryWith Parameter.text = rest) ∧
    (∀ u v : Locator, u.SameButSecrets v →
      redact (String.ofList u.text) = redact (String.ofList v.text) ∧
      ∀ c d : ConnectionConfig, c.connectionString = some (String.ofList u.text) →
        d.connectionString = some (String.ofList v.text) → c.describe = d.describe) ∧
    ∀ (c : ConnectionConfig) (p q : String), c.connectionString = none →
      { c with password := some p }.describe = { c with password := some q }.describe := by
  have htwo (u v : Locator) (h : u.SameButSecrets v) :
      redact (String.ofList u.text) = redact (String.ofList v.text) := by
    rw [u.redact_text, v.redact_text, h.masked_eq]
  refine ⟨Locator.redact_text, fun _ _ _ _ _ => Locator.exists_parts, fun u v h => ?_, ?_⟩
  · refine ⟨htwo u v h, fun c d hc hd => ?_⟩
    rw [ConnectionConfig.describe, hc, ConnectionConfig.describe, hd]
    exact htwo u v h
  · intro c p q hnone
    simp [ConnectionConfig.describe, ConnectionConfig.loginText, hnone]

open Redaction in
/-- Passwords with delimiters in them, and sensitive keys in two spellings. -/
theorem redact_hides_secrets_delimiters :
    let u : Locator := {
      scheme := "postgres".toList, user := "svc".toList, password := "a@b:c&d=#".toList
      host := "db:5432".toList, path := "/app".toList
      query := some [.setting "sslmode".toList "require".toList (by decide) (by decide),
        .setting "PassWord".toList "x=1".toList (by decide) (by decide),
        .flag "pass".toList (by decide)]
      hscheme := by decide, huser := by decide, hpassword := by decide, hhost := by decide
      hpath := ⟨by decide, fun c hc => (Option.some.inj hc).symm⟩ }
    let v : Locator := {
      u with
      password := []
      query := some [.setting "sslmode".toList "require".toList (by decide) (by decide),
        .setting "PassWord".toList "#@".toList (by decide) (by decide),
        .flag "pass".toList (by decide)]
      hpassword := by decide }
    u.SameButSecrets v ∧
      redact "postgres://svc:a@b:c&d=#@db:5432/app?sslmode=require&PassWord=x=1&pass" =
        "postgres://svc:***@db:5432/app?sslmode=require&PassWord=***&pass" ∧
      redact "postgres://svc:a@b:c&d=#@db:5432/app?sslmode=require&PassWord=x=1&pass" =
        redact "postgres://svc:@db:5432/app?sslmode=require&PassWord=#@&pass" := by
  intro u v
  have hu : String.ofList u.text =
      "postgres://svc:a@b:c&d=#@db:5432/app?sslmode=require&PassWord=x=1&pass" := by decide +kernel
  have hv : String.ofList v.text =
      "postgres://svc:@db:5432/app?sslmode=require&PassWord=#@&pass" := by decide +kernel
  have hmasked : String.ofList u.masked =
      "postgres://svc:***@db:5432/app?sslmode=require&PassWord=***&pass" := by decide +kernel
  have hsecret : isSensitive "PassWord".toList = true := by decide +kernel
  have hsame : u.SameButSecrets v := {
    scheme := rfl
    user := rfl
    host := rfl
    path := rfl
    query := .some (.cons (.same _) (.cons (.secret _ _ _ hsecret) (.cons (.same _) .nil))) }
  have hredact := redact_hides_secrets.1 u
  have htwo := (redact_hides_secrets.2.2.1 u v hsame).1
  rw [hu, hmasked] at hredact
  rw [hu, hv] at htwo
  exact ⟨hsame, hredact, htwo⟩

end ZodCatalog
