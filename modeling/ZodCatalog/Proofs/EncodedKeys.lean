import ZodCatalog.Proofs.Alphabets
import ZodCatalog.Proofs.MaskedSecrets
import ZodCatalog.Proofs.PercentSigns

/-! Keys of a query as they are written and as a driver reads them. The driver takes percent signs
for bytes before it compares a key; the log compares the key as it is written. They agree on the
sensitive keys that are written without percent signs, and on no others. -/

namespace ZodCatalog

namespace Text

theorem eq_append_of_cutFirst {p : Char → Bool} {s l t : List Char}
    (h : cutFirst p s = some (l, t)) : ∃ c, p c = true ∧ s = l ++ c :: t := by
  induction s generalizing l with
  | nil => contradiction
  | cons d s ih =>
    rw [cutFirst] at h
    split at h
    · next hd =>
      cases h
      exact ⟨d, hd, rfl⟩
    · obtain ⟨⟨l', t'⟩, hcut, heq⟩ := Option.map_eq_some_iff.1 h
      cases heq
      obtain ⟨c, hc, rfl⟩ := ih hcut
      exact ⟨c, hc, rfl⟩

theorem eq_append_of_cutLast {p : Char → Bool} {s l t : List Char}
    (h : cutLast p s = some (l, t)) : ∃ c, p c = true ∧ s = l ++ c :: t := by
  obtain ⟨⟨l', t'⟩, hcut, heq⟩ := Option.map_eq_some_iff.1 h
  cases heq
  obtain ⟨c, hc, hreverse⟩ := eq_append_of_cutFirst hcut
  refine ⟨c, hc, ?_⟩
  rw [← List.reverse_reverse s, hreverse]
  simp

/-- One piece of a join can be changed without the text around it. -/
theorem exists_joinWith_around (sep : List Char) (before after : List (List Char)) :
    ∃ front back, ∀ piece, joinWith sep (before ++ piece :: after) = front ++ piece ++ back := by
  have hback : ∃ back, ∀ piece, joinWith sep (piece :: after) = piece ++ back := by
    cases after with
    | nil => exact ⟨[], fun piece => (List.append_nil piece).symm⟩
    | cons next after =>
      exact ⟨sep ++ joinWith sep (next :: after), fun piece => by simp [joinWith]⟩
  obtain ⟨back, hback⟩ := hback
  rcases eq_or_ne before [] with rfl | hbefore
  · exact ⟨[], back, fun piece => hback piece⟩
  · refine ⟨joinWith sep before ++ sep, back, fun piece => ?_⟩
    rw [joinWith_append hbefore (List.cons_ne_nil piece after), hback, List.append_assoc _ piece]

end Text

namespace Redaction
open Text

/-- Sensitive keys consist of letters of ASCII. -/
theorem isAlpha_of_isSensitive {key : List Char} (h : isSensitive key = true) :
    ∀ c ∈ key, c.isAlpha = true := by
  have hletters : ∀ name ∈ sensitiveKeys,
      name.toList.all (fun d => decide (d.isLower = true ∧ d ≠ 'k')) = true := by decide
  obtain ⟨name, hname, heq⟩ := List.any_eq_true.1 h
  apply isAlpha_of_lower
  rw [← beq_iff_eq.1 heq]
  exact fun d hd => of_decide_eq_true (List.all_eq_true.1 (hletters name hname) d hd)

theorem not_mem_of_isSensitive {key : List Char} {c : Char} (h : isSensitive key = true)
    (hc : c.isAlpha = false) : c ∉ key := fun hmem => by
  rw [isAlpha_of_isSensitive h c hmem] at hc
  contradiction

/-- A key that the driver takes for a sensitive one is seen in the log exactly if it is plain. -/
theorem isSensitive_iff_of_decoded {key : List Char}
    (hseen : isSensitive (Url.formDecode key).toList = true) :
    isSensitive key = true ↔ '%' ∉ key := by
  refine ⟨fun h => not_mem_of_isSensitive h (by decide), fun hplain => ?_⟩
  rw [Url.formDecode_of_plain hplain, String.toList_ofList] at hseen
  -- A plus sign would be a blank, which no sensitive key has.
  have hplus : '+' ∉ key := fun hmem =>
    not_mem_of_isSensitive hseen (by decide) (List.mem_map.2 ⟨'+', hmem, rfl⟩)
  have hsame : key.map (fun c => if c = '+' then ' ' else c) = key := by
    have hself : ∀ c ∈ key, (if c = '+' then ' ' else c) = id c := by
      rintro c hc
      exact if_neg (ne_of_mem_of_not_mem hc hplus)
    rw [List.map_congr_left hself, List.map_id]
  rwa [hsame] at hseen

theorem question_not_mem_maskAuthority {authority : List Char} (h : '?' ∉ authority) :
    '?' ∉ maskAuthority authority := by
  unfold maskAuthority
  split
  · next login host hlast =>
    obtain ⟨c, -, rfl⟩ := eq_append_of_cutLast hlast
    split
    · next user password hfirst =>
      obtain ⟨d, -, rfl⟩ := eq_append_of_cutFirst hfirst
      have hmask : '?' ∉ mask := by decide
      simp only [List.mem_append, List.mem_cons, not_or] at h
      simp [h, hmask]
    · exact h
  · exact h

section Queries

variable {scheme authority path key : List Char} {before after : List (List Char)}

theorem splitOnChar_query (hkey : '=' ∉ key ∧ '&' ∉ key)
    (hpieces : ∀ piece ∈ before ++ after, '&' ∉ piece) {value : List Char} (hvalue : '&' ∉ value) :
    splitOnChar '&' (joinWith ['&'] (before ++ (key ++ '=' :: value) :: after)) =
      before ++ (key ++ '=' :: value) :: after := by
  refine splitOnChar_joinWith (by simp) fun piece hpiece => ?_
  rcases List.mem_append.1 hpiece with hmem | hmem
  · exact hpieces piece (List.mem_append_left _ hmem)
  · rcases List.mem_cons.1 hmem with rfl | hmem
    · simp [hkey.2, hvalue]
    · exact hpieces piece (List.mem_append_right _ hmem)

/-- Only the parameter of a key depends on its value, and only if the key is taken for plain. -/
theorem exists_redact_parameter (hscheme : ':' ∉ scheme ∧ '?' ∉ scheme)
    (hauthority : '/' ∉ authority ∧ '?' ∉ authority)
    (hpath : '?' ∉ path ∧ ∀ c ∈ path.head?, c = '/') (hkey : '=' ∉ key ∧ '&' ∉ key)
    (hpieces : ∀ piece ∈ before ++ after, '&' ∉ piece) :
    ∃ front back, ∀ value, '&' ∉ value →
      redact (String.ofList (scheme ++ "://".toList ++ authority ++ path ++
        '?' :: joinWith ['&'] (before ++ (key ++ '=' :: value) :: after))) =
      String.ofList (front ++ key ++ '=' :: (if isSensitive key then mask else value) ++ back) := by
  let shown := scheme ++ "://".toList ++ maskAuthority authority ++ path
  have hshown : '?' ∉ shown := by
    simp [shown, hscheme.2, question_not_mem_maskAuthority hauthority.2, hpath.1]
  obtain ⟨front, back, hjoin⟩ :=
    exists_joinWith_around ['&'] (before.map maskParameter) (after.map maskParameter)
  refine ⟨shown ++ ['?'] ++ front, back, fun value hvalue => ?_⟩
  let query := joinWith ['&'] (before ++ (key ++ '=' :: value) :: after)
  have hhead : ∀ c ∈ (path ++ '?' :: query).head?, endsAuthority c = true :=
    endsAuthority_head hpath.2 fun c hc => (Option.some.inj hc).symm
  have hpassword : maskPassword (scheme ++ "://".toList ++ authority ++ path ++ '?' :: query) =
      shown ++ '?' :: query := by
    have hmasked := maskPassword_append hscheme.1 hauthority hhead
    simpa only [shown, List.append_assoc] using hmasked
  have hcut : splitOnChar '&' query = before ++ (key ++ '=' :: value) :: after :=
    splitOnChar_query hkey hpieces hvalue
  have hparameter : maskParameter (key ++ '=' :: value) =
      key ++ '=' :: (if isSensitive key then mask else value) :=
    Parameter.maskParameter_text (.setting key value hkey hvalue)
  rw [redact, String.toList_ofList, hpassword, maskQuery,
    cutFirst_append (beq_eq_false_of_not_mem hshown) (beq_self_eq_true '?')]
  simp only [hcut, List.map_append, List.map_cons, hjoin, hparameter, List.append_assoc]

/-- What the driver reads of a parameter. -/
theorem mem_queryPairs (hkey : '=' ∉ key ∧ '&' ∉ key)
    (hpieces : ∀ piece ∈ before ++ after, '&' ∉ piece) {value : List Char} (hvalue : '&' ∉ value) :
    (Url.formDecode key, Url.formDecode value) ∈
      Url.queryPairs (joinWith ['&'] (before ++ (key ++ '=' :: value) :: after)) := by
  have hcut := cutFirst_append (beq_eq_false_of_not_mem hkey.1) (beq_self_eq_true '=') value
  rw [Url.queryPairs, splitOnChar_query hkey hpieces hvalue]
  refine List.mem_map.2 ⟨key ++ '=' :: value, List.mem_filter.2 ⟨by simp, by simp⟩, ?_⟩
  rw [hcut]

end Queries
end Redaction

open Redaction Text in
/-- The log hides the value of a key that the driver takes for a sensitive one exactly if the key is
written without percent signs. Two strings that differ in this value alone are logged alike then,
and otherwise the value is logged as it is. -/
theorem redact_decoded_key_iff {scheme authority path key : List Char}
    {before after : List (List Char)} (hscheme : ':' ∉ scheme ∧ '?' ∉ scheme)
    (hauthority : '/' ∉ authority ∧ '?' ∉ authority)
    (hpath : '?' ∉ path ∧ ∀ c ∈ path.head?, c = '/') (hkey : '=' ∉ key ∧ '&' ∉ key)
    (hpieces : ∀ piece ∈ before ++ after, '&' ∉ piece)
    (hseen : isSensitive (Url.formDecode key).toList = true) :
    let query (value : List Char) : List Char :=
      joinWith ['&'] (before ++ (key ++ '=' :: value) :: after)
    let shown (value : List Char) : String :=
      redact (String.ofList (scheme ++ "://".toList ++ authority ++ path ++ '?' :: query value))
    (∀ value, '&' ∉ value →
      (Url.formDecode key, Url.formDecode value) ∈ Url.queryPairs (query value)) ∧
    ((∀ v w, '&' ∉ v → '&' ∉ w → shown v = shown w) ↔ '%' ∉ key) ∧
    ('%' ∈ key → ∃ front back, ∀ value, '&' ∉ value →
      shown value = String.ofList (front ++ key ++ '=' :: value ++ back)) := by
  intro query shown
  obtain ⟨front, back, hshown⟩ : ∃ front back, ∀ value, '&' ∉ value → shown value =
      String.ofList (front ++ key ++ '=' :: (if isSensitive key then mask else value) ++ back) :=
    exists_redact_parameter hscheme hauthority hpath hkey hpieces
  have hsensitive := isSensitive_iff_of_decoded hseen
  refine ⟨fun value => mem_queryPairs hkey hpieces, ⟨fun hsame => ?_, fun hplain => ?_⟩, ?_⟩
  · rw [← hsensitive]
    by_contra hleft
    -- A value is logged as it is, so an empty one is told from another.
    have heq := hsame [] ['x'] (by decide) (by decide)
    rw [hshown [] (by decide), hshown ['x'] (by decide), if_neg hleft, if_neg hleft] at heq
    simpa using congrArg (·.toList.length) heq
  · intro v w hv hw
    have hmasked := hsensitive.2 hplain
    rw [hshown v hv, hshown w hw, if_pos hmasked, if_pos hmasked]
  · intro hsign
    refine ⟨front, back, fun value hvalue => ?_⟩
    rw [hshown value hvalue, if_neg (mt hsensitive.1 (not_not_intro hsign))]

open Redaction Text in
/-- A key in mixed case is masked, and one with a percent sign for one of its letters is not. -/
theorem redact_decoded_key_two :
    let shown (key value : List Char) : String :=
      redact (String.ofList ("postgres".toList ++ "://".toList ++ "svc:x@db:5432".toList ++
        "/app".toList ++
          '?' :: joinWith ['&'] (["sslmode=allow".toList] ++ (key ++ '=' :: value) :: [])))
    isSensitive (Url.formDecode "PassFile".toList).toList = true ∧
      (∀ v w, '&' ∉ v → '&' ∉ w → shown "PassFile".toList v = shown "PassFile".toList w) ∧
      isSensitive (Url.formDecode "PassFi%6Ce".toList).toList = true ∧
      ¬ ∀ v w, '&' ∉ v → '&' ∉ w → shown "PassFi%6Ce".toList v = shown "PassFi%6Ce".toList w := by
  intro shown
  have hplain : isSensitive (Url.formDecode "PassFile".toList).toList = true := by decide +kernel
  have hencoded : isSensitive (Url.formDecode "PassFi%6Ce".toList).toList = true := by
    decide +kernel
  have hiff (key : List Char) (hkey : '=' ∉ key ∧ '&' ∉ key)
      (hseen : isSensitive (Url.formDecode key).toList = true) :
      (∀ v w, '&' ∉ v → '&' ∉ w → shown key v = shown key w) ↔ '%' ∉ key :=
    (redact_decoded_key_iff (by decide) (by decide) ⟨by decide, by simp⟩ hkey (by decide)
      hseen).2.1
  exact ⟨hplain, (hiff _ (by decide) hplain).2 (by decide), hencoded,
    fun hsame => (hiff _ (by decide) hencoded).1 hsame (by decide)⟩

open Redaction in
/-- A password under a key that the driver takes for the password, logged as it is. -/
theorem redact_encoded_key_kept :
    ("password", "hunter2") ∈ Url.queryPairs "p%61ssword=hunter2".toList ∧
      isSensitive "password".toList = true ∧
      redact "postgres://svc@db/app?p%61ssword=hunter2" =
        "postgres://svc@db/app?p%61ssword=hunter2" ∧
      redact "postgres://svc@db/app?p%61ssword=hunter2" ≠
        redact "postgres://svc@db/app?p%61ssword=" := by
  decide +kernel

end ZodCatalog
