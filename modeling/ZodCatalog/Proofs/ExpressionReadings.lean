import ZodCatalog.Proofs.CallChains
import ZodCatalog.Proofs.JsonTexts
import ZodCatalog.Zod.Expr

/-! Expressions read back from their texts. A chain of methods and nested calls are two notations:
in the first every check, wrapper and transform is a method of what stands before it, in the second
only checks are, and wrappers and transforms are calls on the library. Reading either of them gives
a tree, with the schemas that are not composed kept as they are spelled. -/

namespace ZodCatalog
open Check (Balanced)
open CallText ModuleText

namespace Zod

def libraryCall? (s : String) : Option (String × String) :=
  match links s with
  | some [⟨library, none⟩, ⟨f, some arguments⟩] =>
    if library = "z" then some (f, arguments) else none
  | _ => none

/-- Checks after those that an expression already has. -/
def Expr.withChecks : Expr → List Check → Expr
  | e, [] => e
  | checked e ks, ls => checked e (ks ++ ls)
  | e, ls => checked e ls

def boundName : Composition → String
  | .chained => "max"
  | .functional => "maxLength"

def readCheck (c : Composition) (f arguments : String) : Option Check :=
  if f = boundName c then
    ((Document.Json.number? arguments.toList).bind Document.Value.asInt32?).map .maxLength
  else if arguments ≠ "" then none
  else if f = "trim" then some .trim
  else if f = "toLowerCase" then some .lowercase
  else if f = "toUpperCase" then some .uppercase
  else if f = "normalize" then some .normalize
  else if f = "nonnegative" then some .nonNegative
  else none

def readWrapper (f : String) : Option (Expr → Expr) :=
  if f = "nullable" then some .nullable
  else if f = "optional" then some .optional
  else if f = "partial" then some .partialOf
  else none

def formats : List String := ["email", "url", "uuid", "int"]

/-- A method in a chain; a format belongs to the spelling of the scalar before it. -/
def readChained (e : Expr) (f arguments : String) : Option Expr :=
  match readCheck .chained f arguments with
  | some k => some (e.withChecks [k])
  | none =>
    if f = "transform" then some (.transform e (.verbatim arguments))
    else if arguments ≠ "" then none
    else if f ∈ formats then
      match e with
      | .verbatim base => some (.verbatim (methodText base f ""))
      | _ => none
    else (readWrapper f).map (· e)

/-- Checks in the functional notation are the arguments of one method. -/
def readFunctional (e : Expr) (f arguments : String) : Option Expr :=
  if f = "check" then
    let checks := (argumentList arguments).mapM fun s =>
      (libraryCall? s).bind fun call => readCheck .functional call.1 call.2
    checks.map e.withChecks
  else none

def readMethod : Composition → Expr → String → String → Option Expr
  | .chained => readChained
  | .functional => readFunctional

def scalarNames : List String :=
  ["string", "number", "boolean", "date", "any", "email", "url", "uuid", "int", "json"]

section Calls

variable (c : Composition) (read : String → Option Expr)

def readWrapping (f arguments : String) : Option Expr :=
  if f = "pipe" then
    match argumentList arguments with
    | [s, t] =>
      (libraryCall? t).bind fun call =>
        if call.1 = "transform" then (read s).map (.transform · (.verbatim call.2)) else none
    | _ => none
  else (readWrapper f).bind fun wrap => (read arguments).map wrap

/-- A call on the library; expressions among its arguments are read by `read`. -/
def readCall (f arguments : String) : Option Expr :=
  if arguments = "" then
    if f ∈ scalarNames then some (.verbatim (methodText "z" f "")) else none
  else if f = "array" then (read arguments).map .array
  else if f = "enum" then
    if isIdentifier arguments.toList then some (.enum arguments) else none
  else
    match c with
    | .chained => none
    | .functional => readWrapping read f arguments

/-- What has been read of an expression. -/
inductive Reading
  | nothing
  | library
  | coercion
  | schema (e : Expr)

/-- A schema may have the name of the library. -/
def Reading.expr? : Reading → Option Expr
  | library => some (.verbatim "z")
  | schema e => some e
  | nothing => none
  | coercion => none

def nextReading : Reading → Link → Option Reading
  | .nothing, ⟨name, none⟩ => if name = "z" then some .library else some (.schema (.verbatim name))
  | .library, ⟨name, none⟩ => if name = "coerce" then some .coercion else none
  | .library, ⟨f, some arguments⟩ =>
    (readCall c read f arguments <|> readMethod c (.verbatim "z") f arguments).map .schema
  | .coercion, ⟨f, some arguments⟩ =>
    if f = "date" ∧ arguments = "" then some (.schema (.verbatim "z.coerce.date()")) else none
  | .schema e, ⟨f, some arguments⟩ => (readMethod c e f arguments).map .schema
  | _, _ => none

def readLinks (s : String) : Option Reading :=
  (links s).bind fun ls => ls.foldlM (nextReading c read) .nothing

end Calls

def readWithin (c : Composition) : Nat → String → Option Expr
  | 0, _ => none
  | fuel + 1, s => (readLinks c (readWithin c fuel) s).bind Reading.expr?

/-- The tree of a text. Arguments are shorter than the text of their call. -/
def read (c : Composition) (s : String) : Option Expr := readWithin c (s.length + 1) s

section Checks

theorem balanced_toString (n : Int) : Balanced (toString n).toList := by
  have hdigits (m : Nat) : ∀ c ∈ (Nat.repr m).toList, c ∉ ['\'', '(', ')'] := by
    intro c hc hspecial
    rw [Nat.toList_repr] at hc
    have hdigit : c.isDigit = true := Nat.isDigit_of_mem_toDigits (by decide) (by decide) hc
    simp only [List.mem_cons, List.not_mem_nil, or_false] at hspecial
    rcases hspecial with rfl | rfl | rfl <;> contradiction
  cases n with
  | ofNat m => exact .of_plain (hdigits m)
  | negSucc m =>
    have htext : (toString (Int.negSucc m)).toList = '-' :: (Nat.repr (m + 1)).toList := by
      show ("-" ++ Nat.repr (m + 1)).toList = _
      simp
    rw [htext]
    exact .plain (by decide) (.of_plain (hdigits (m + 1)))

namespace Check

/-- The name of a check as a call, and what it is called with. -/
def call (c : Composition) : Check → String × String
  | trim => ("trim", "")
  | lowercase => ("toLowerCase", "")
  | uppercase => ("toUpperCase", "")
  | normalize => ("normalize", "")
  | maxLength n => (boundName c, toString n.toInt)
  | nonNegative => ("nonnegative", "")

variable (c : Composition) (k : Check)

theorem isIdentifier_call : isIdentifier (k.call c).1.toList = true := by
  cases k with
  | maxLength n =>
    show isIdentifier (boundName c).toList = true
    cases c <;> decide
  | _ => cases c <;> decide

theorem balanced_call : Balanced (k.call c).2.toList := by
  cases k with
  | maxLength n => exact balanced_toString n.toInt
  | _ => exact .nil

theorem readCheck_call : readCheck c (k.call c).1 (k.call c).2 = some k := by
  cases k with
  | maxLength n =>
    rw [call, readCheck, if_pos rfl, Document.Json.number?_toString, Option.bind_some,
      Document.Value.asInt32?_toInt, Option.map_some]
  | _ => cases c <;> decide

theorem argument_eq :
    k.argument = methodText "z" (k.call .functional).1 (k.call .functional).2 := by
  cases k <;> rfl

theorem append_method (s : String) :
    s ++ k.method = methodText s (k.call .chained).1 (k.call .chained).2 := by
  have hmethod : k.method = "." ++ callText (k.call .chained).1 (k.call .chained).2 := by
    cases k <;> rfl
  rw [hmethod, methodText, String.append_assoc]

end Check
end Checks

section Readings

variable {c : Composition} {s f arguments : String} {e e' : Expr}

/-- A text reads as an expression with as much fuel as it is long. -/
def ReadsAs (c : Composition) (s : String) (e : Expr) : Prop :=
  ∀ fuel, s.length ≤ fuel → ∃ r, readLinks c (readWithin c fuel) s = some r ∧ r.expr? = some e

/-- An expression whose text reads as a tree and is one argument wherever it is written as one. -/
structure Written (c : Composition) (s : String) (e : Expr) : Prop where
  unbroken : Unbroken ',' s
  reads : ReadsAs c s e

theorem unbroken_library : Unbroken ',' "z" := .identifier (.inr rfl) (by decide)

theorem length_methodText (s f arguments : String) :
    (methodText s f arguments).length = s.length + f.length + arguments.length + 3 := by
  simp only [methodText, callText, String.length_append]
  show s.length + 1 + (f.length + 1 + arguments.length + 1) = _
  omega

theorem readLinks_methodText (read : String → Option Expr) (hs : Balanced s.toList)
    (hf : isIdentifier f.toList = true) (harguments : Balanced arguments.toList) :
    readLinks c read (methodText s f arguments) =
      (readLinks c read s).bind fun r => nextReading c read r ⟨f, some arguments⟩ := by
  rw [readLinks, links_methodText hs hf harguments, readLinks]
  cases links s with
  | none => rfl
  | some ls => simp [List.foldlM_append]

namespace ReadsAs

theorem readWithin_eq (h : ReadsAs c s e) {fuel : Nat} (hfuel : s.length < fuel) :
    readWithin c fuel s = some e := by
  cases fuel with
  | zero => contradiction
  | succ fuel =>
    obtain ⟨r, hr, hexpr⟩ := h fuel (Nat.le_of_lt_succ hfuel)
    rw [readWithin, hr]
    exact hexpr

theorem read_eq (h : ReadsAs c s e) : read c s = some e := h.readWithin_eq (Nat.lt_succ_self _)

theorem ne_empty (h : ReadsAs c s e) : s ≠ "" := by
  rintro rfl
  obtain ⟨r, hr, -⟩ := h 0 (Nat.le_refl 0)
  contradiction

end ReadsAs

namespace Written

theorem identifier (h : isIdentifier s.toList = true) : Written c s (.verbatim s) where
  unbroken := .identifier (.inr rfl) h
  reads fuel _ := by
    rw [readLinks, links_identifier h]
    by_cases hlibrary : s = "z"
    · subst hlibrary
      exact ⟨.library, rfl, rfl⟩
    · exact ⟨.schema (.verbatim s), by simp [nextReading, hlibrary], rfl⟩

theorem scalar (d : Dialect) (s : Scalar) :
    Written d.profile.composition (s.text d.profile) (.verbatim (s.text d.profile)) where
  unbroken := by
    have hplain : Check.Nesting.settles .start (s.text d.profile).toList = true ∧
        ',' ∉ (s.text d.profile).toList := by
      cases d <;> cases s <;> decide
    exact .of_not_mem (.inr rfl) (.of_settles hplain.1) hplain.2
  reads fuel _ := by
    refine ⟨.schema (.verbatim (s.text d.profile)), ?_, rfl⟩
    cases d <;> cases s <;> rfl

/-- What an expression is called with is not mistaken for a call on the library, not even where the
expression has the name of the library. -/
theorem method (h : Written c s e) (hf : isIdentifier f.toList = true)
    (harguments : Balanced arguments.toList) (hcall : ∀ read, readCall c read f arguments = none)
    (hmethod : readMethod c e f arguments = some e') :
    Written c (methodText s f arguments) e' where
  unbroken := h.unbroken.method hf harguments
  reads fuel hfuel := by
    rw [length_methodText] at hfuel
    obtain ⟨r, hr, hexpr⟩ := h.reads fuel (by omega)
    refine ⟨.schema e', ?_, rfl⟩
    rw [readLinks_methodText _ h.unbroken.balanced hf harguments, hr, Option.bind_some]
    cases r with
    | nothing => contradiction
    | coercion => contradiction
    | library =>
      -- Only an expression named as the library is read so far; a call on the library is tried
      -- first, and refused.
      obtain rfl : .verbatim "z" = e := Option.some.inj hexpr
      simp [nextReading, hcall, hmethod]
    | schema d =>
      obtain rfl : d = e := Option.some.inj hexpr
      simp [nextReading, hmethod]

theorem call (hf : isIdentifier f.toList = true) (harguments : Balanced arguments.toList)
    (hcall : ∀ fuel, arguments.length < fuel →
      readCall c (readWithin c fuel) f arguments = some e) :
    Written c (methodText "z" f arguments) e where
  unbroken := unbroken_library.method hf harguments
  reads fuel hfuel := by
    rw [length_methodText] at hfuel
    have hlibrary : readLinks c (readWithin c fuel) "z" = some .library := rfl
    refine ⟨.schema e, ?_, rfl⟩
    rw [readLinks_methodText _ unbroken_library.balanced hf harguments, hlibrary,
      Option.bind_some]
    simp [nextReading, hcall fuel (by omega)]

end Written

variable (read : String → Option Expr)

/-- The names of methods in a chain are not those of calls on the library. -/
theorem readCall_chained (hf : f ∉ "array" :: "enum" :: scalarNames) :
    readCall .chained read f arguments = none := by
  simp only [List.mem_cons, not_or] at hf
  rw [readCall]
  split <;> simp [hf]

theorem readCall_check : readCall .functional read "check" arguments = none := by
  rw [readCall]
  split <;> simp [scalarNames, readWrapping, readWrapper]

end Readings

theorem libraryCall?_methodText {f arguments : String} (hf : isIdentifier f.toList = true)
    (harguments : Balanced arguments.toList) :
    libraryCall? (methodText "z" f arguments) = some (f, arguments) := by
  have hlinks := links_methodText (s := "z") unbroken_library.balanced hf harguments
  rw [libraryCall?, hlinks, links_identifier (by decide)]
  rfl

section Checks

variable {s : String} {e : Expr}

theorem withChecks_append (ks ls : List Check) :
    (e.withChecks ks).withChecks ls = e.withChecks (ks ++ ls) := by
  cases ks with
  | nil => rfl
  | cons k ks =>
    cases ls with
    | nil => cases e <;> simp [Expr.withChecks]
    | cons l ls => cases e <;> simp [Expr.withChecks]

theorem unbroken_argument (k : Check) : Unbroken ',' k.argument := by
  rw [k.argument_eq]
  exact unbroken_library.method (k.isIdentifier_call _) (k.balanced_call _)

theorem balanced_intercalate (ks : List Check) :
    Balanced (String.intercalate ", " (ks.map Check.argument)).toList := by
  have hcomma : Balanced ", ".toList := .of_settles (by decide)
  induction ks with
  | nil => exact .nil
  | cons k ks ih =>
    cases ks with
    | nil => simpa using (unbroken_argument k).balanced
    | cons l ks =>
      rw [List.map_cons, List.map_cons, String.intercalate_cons_cons, String.toList_append,
        String.toList_append]
      exact ((unbroken_argument k).balanced.append hcomma).append ih

theorem argumentList_intercalate {ks : List Check} (hks : ks ≠ []) :
    argumentList (String.intercalate ", " (ks.map Check.argument)) = ks.map Check.argument := by
  induction ks with
  | nil => contradiction
  | cons k ks ih =>
    cases ks with
    | nil => simpa using argumentList_singleton (unbroken_argument k)
    | cons l ks =>
      obtain ⟨r, hr⟩ : ∃ r, (String.intercalate ", " ((l :: ks).map Check.argument)).toList =
          'z' :: r := by
        cases ks <;> simp [l.argument_eq, methodText]
      have hrest := ih (List.cons_ne_nil l ks)
      rw [List.map_cons, List.map_cons, String.intercalate_cons_cons, ← List.map_cons,
        argumentList_append (unbroken_argument k) hr (by decide), hrest]

theorem readFunctional_check {ks : List Check} (hks : ks ≠ []) (e : Expr) :
    readFunctional e "check" (String.intercalate ", " (ks.map Check.argument)) =
      some (e.withChecks ks) := by
  have hcheck (k : Check) : ((libraryCall? k.argument).bind fun call =>
      readCheck .functional call.1 call.2) = some k := by
    rw [k.argument_eq, libraryCall?_methodText (k.isIdentifier_call _) (k.balanced_call _)]
    exact k.readCheck_call .functional
  have hchecks : (ks.map Check.argument).mapM (fun s => (libraryCall? s).bind fun call =>
      readCheck .functional call.1 call.2) = some ks := by
    clear hks
    induction ks with
    | nil => rfl
    | cons k ks ih =>
      rw [List.map_cons, List.mapM_cons, hcheck, ih]
      rfl
  rw [readFunctional, if_pos rfl, argumentList_intercalate hks, hchecks]
  rfl

theorem Check.call_not_mem (k : Check) :
    (k.call .chained).1 ∉ "array" :: "enum" :: scalarNames := by
  cases k with
  | maxLength n =>
    show "max" ∉ "array" :: "enum" :: scalarNames
    decide
  | _ => decide

namespace Written

/-- Checks in a chain are read one after the other. -/
theorem chain (h : Written .chained s e) (ks : List Check) :
    Written .chained (s ++ String.join (ks.map Check.method)) (e.withChecks ks) := by
  induction ks generalizing s e with
  | nil =>
    have htext : s ++ String.join (List.map Check.method []) = s := by simp
    rwa [htext]
  | cons k ks ih =>
    have htext : s ++ String.join ((k :: ks).map Check.method) =
        s ++ k.method ++ String.join (ks.map Check.method) := by
      rw [List.map_cons, String.join_cons, String.append_assoc]
    have hread : readMethod .chained e (k.call .chained).1 (k.call .chained).2 =
        some (e.withChecks [k]) := by
      simp only [readMethod, readChained, k.readCheck_call]
    have hmethod := h.method (k.isIdentifier_call _) (k.balanced_call _)
      (fun read => readCall_chained read k.call_not_mem) hread
    rw [← k.append_method] at hmethod
    have hrest := ih hmethod
    rwa [withChecks_append, ← htext] at hrest

theorem checks (h : Written c s e) (ks : List Check) :
    Written c (Expr.checksText c s ks) (e.withChecks ks) := by
  cases ks with
  | nil => exact h
  | cons k ks =>
    cases c with
    | chained => exact h.chain (k :: ks)
    | functional =>
      have htext : Expr.checksText .functional s (k :: ks) =
          methodText s "check" (String.intercalate ", " ((k :: ks).map Check.argument)) := by
        rw [← String.toList_inj]
        simp [Expr.checksText, methodText, callText]
      have hchecks := readFunctional_check (List.cons_ne_nil k ks) e
      rw [htext]
      exact h.method (by decide) (balanced_intercalate _) readCall_check hchecks

end Written
end Checks

/-! The texts of the other forms of expressions as calls. -/

def wrapperText (f : String) : Composition → String → String
  | .chained, s => methodText s f ""
  | .functional, s => methodText "z" f s

theorem text_wrapper {f : String} {wrap : Expr → Expr} (hwrap : readWrapper f = some wrap)
    (p : DialectProfile) (e : Expr) : (wrap e).text p = wrapperText f p.composition (e.text p) := by
  rw [← String.toList_inj]
  unfold readWrapper at hwrap
  split at hwrap
  · next hf =>
    obtain rfl := Option.some.inj hwrap
    rw [hf, Expr.text]
    cases p.composition <;> simp [Expr.nullableText, wrapperText, methodText, callText]
  split at hwrap
  · next hf =>
    obtain rfl := Option.some.inj hwrap
    rw [hf, Expr.text]
    cases p.composition <;> simp [Expr.optionalText, wrapperText, methodText, callText]
  split at hwrap
  · next hf =>
    obtain rfl := Option.some.inj hwrap
    rw [hf, Expr.text]
    cases p.composition <;> simp [Expr.partialText, wrapperText, methodText, callText]
  · contradiction

theorem transformText_chained (s f : String) :
    Expr.transformText .chained s f = methodText s "transform" f := by
  rw [← String.toList_inj]
  simp [Expr.transformText, methodText, callText]

theorem transformText_functional (s f : String) : Expr.transformText .functional s f =
    methodText "z" "pipe" (s ++ ", " ++ methodText "z" "transform" f) := by
  rw [← String.toList_inj]
  simp [Expr.transformText, methodText, callText]

theorem text_enum (p : DialectProfile) (constant : String) :
    (Expr.enum constant).text p = methodText "z" "enum" constant := by
  rw [← String.toList_inj]
  simp [Expr.text, methodText, callText]

theorem text_array (p : DialectProfile) (e : Expr) :
    (Expr.array e).text p = methodText "z" "array" (e.text p) := by
  rw [← String.toList_inj]
  simp [Expr.text, methodText, callText]

namespace Written

variable {c : Composition} {s f : String} {e : Expr}

theorem array (h : Written c s e) : Written c (methodText "z" "array" s) (.array e) := by
  refine call (by decide) h.unbroken.balanced fun fuel hfuel => ?_
  simp [readCall, h.reads.ne_empty, h.reads.readWithin_eq hfuel]

theorem enum (hf : isIdentifier f.toList = true) :
    Written c (methodText "z" "enum" f) (.enum f) := by
  have hne : f ≠ "" := by
    rintro rfl
    contradiction
  refine call (by decide) (Unbroken.identifier (.inr rfl) hf).balanced fun fuel _ => ?_
  simp [readCall, hne, hf]

theorem wrapper (h : Written c s e) {wrap : Expr → Expr} (hwrap : readWrapper f = some wrap) :
    Written c (wrapperText f c s) (wrap e) := by
  have hname : f ∈ ["nullable", "optional", "partial"] := by
    by_contra hnone
    simp only [List.mem_cons, List.not_mem_nil, or_false, not_or] at hnone
    simp [readWrapper, hnone] at hwrap
  -- A name of a wrapper is not one of anything else that is called.
  have hapart : ∀ g ∈ ["nullable", "optional", "partial"], isIdentifier g.toList = true ∧
      g ∉ "array" :: "enum" :: scalarNames ∧ g ∉ formats ∧ g ≠ "transform" ∧ g ≠ "pipe" ∧
        readCheck .chained g "" = none := by decide
  obtain ⟨hidentifier, hcall, hformat, htransform, hpipe, hcheck⟩ := hapart f hname
  cases c with
  | chained =>
    refine h.method hidentifier .nil (fun read => readCall_chained read hcall) ?_
    simp [readMethod, readChained, hcheck, htransform, hformat, hwrap]
  | functional =>
    simp only [List.mem_cons, not_or] at hcall
    refine call hidentifier h.unbroken.balanced fun fuel hfuel => ?_
    simp [readCall, h.reads.ne_empty, hcall, readWrapping, hpipe, hwrap,
      h.reads.readWithin_eq hfuel]

theorem transform (h : Written c s e) (hf : Balanced f.toList) :
    Written c (Expr.transformText c s f) (.transform e (.verbatim f)) := by
  cases c with
  | chained =>
    have hcall : "transform" ∉ "array" :: "enum" :: scalarNames := by decide
    have hcheck : readCheck .chained "transform" f = none := by simp [readCheck, boundName]
    rw [transformText_chained]
    refine h.method (by decide) hf (fun read => readCall_chained read hcall) ?_
    simp [readMethod, readChained, hcheck]
  | functional =>
    have hfunction : Unbroken ',' (methodText "z" "transform" f) :=
      unbroken_library.method (by decide) hf
    -- Both arguments are balanced, so the comma between them is the only one that cuts.
    have hcomma : Balanced ", ".toList := .of_settles (by decide)
    have hbalanced : Balanced (s ++ ", " ++ methodText "z" "transform" f).toList := by
      rw [String.toList_append, String.toList_append]
      exact (h.unbroken.balanced.append hcomma).append hfunction.balanced
    have harguments : argumentList (s ++ ", " ++ methodText "z" "transform" f) =
        [s, methodText "z" "transform" f] := by
      have hhead : (methodText "z" "transform" f).toList =
          'z' :: ("." ++ callText "transform" f).toList := by simp [methodText]
      rw [argumentList_append h.unbroken hhead (by decide), argumentList_singleton hfunction]
    rw [transformText_functional]
    refine call (by decide) hbalanced fun fuel hfuel => ?_
    have hne : s ++ ", " ++ methodText "z" "transform" f ≠ "" := by
      rw [ne_eq, ← String.toList_inj]
      simp
    have hread : readWithin .functional fuel s = some e := by
      simp only [String.length_append] at hfuel
      exact h.reads.readWithin_eq (by omega)
    have hcall : libraryCall? (methodText "z" "transform" f) = some ("transform", f) :=
      libraryCall?_methodText (by decide) hf
    simp [readCall, hne, readWrapping, harguments, hcall, hread]

end Written

end Zod
end ZodCatalog
