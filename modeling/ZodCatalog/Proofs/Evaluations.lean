import ZodCatalog.Proofs.DialectAgreement
import ZodCatalog.Trace

/-! What the expressions of a module do with values. The functions in them are read as terms, which
are evaluated in order and record the methods they call; schemas are any function of expressions and
values that keeps the laws of the wrappers. -/

namespace ZodCatalog.Zod

inductive Absent
  | undefined
  | null
deriving DecidableEq

def Absent.text : Absent → String
  | undefined => "undefined"
  | null => "null"

/-- Values of source text, with `α` for those that are neither absent nor arrays. -/
inductive Value (α : Type)
  | absent (n : Absent)
  | array (items : List (Value α))
  | other (a : α)

namespace Value

variable {α : Type}

def undefined : Value α := absent .undefined

def null : Value α := absent .null

def isAbsent (n : Absent) : Value α → Bool
  | absent m => m == n
  | array _ => false
  | other _ => false

theorem null_ne_undefined : (null : Value α) ≠ undefined := by
  unfold null undefined
  exact nofun

theorem isAbsent_iff {n : Absent} {v : Value α} : v.isAbsent n = true ↔ v = absent n := by
  cases v with
  | absent m => simp [isAbsent]
  | array items => simp [isAbsent]
  | other a => simp [isAbsent]

end Value

/-- The terms that the functions of expressions are made of. -/
inductive Term
  | name (s : String)
  | absent (n : Absent)
  | emptyArray
  /-- The second term where the first gives no value. -/
  | coalesce (a b : Term)
  /-- The second term where the first gives `n`, and the third elsewhere. -/
  | test (a : Term) (n : Absent) (b c : Term)
  | isoDate (a : Term)
  | mapped (a : Term) (parameter : String) (body : Term)
  | jsonText (a : Term)
deriving DecidableEq

def Term.text : Term → String
  | name s => s
  | absent n => n.text
  | emptyArray => "[]"
  | coalesce a b => a.text ++ " ?? " ++ b.text
  | test a n b c =>
    "(" ++ a.text ++ " === " ++ n.text ++ " ? " ++ b.text ++ " : " ++ c.text ++ ")"
  | isoDate a => a.text ++ ".toISOString()"
  | mapped a parameter body => a.text ++ ".map((" ++ parameter ++ ") => " ++ body.text ++ ")"
  | jsonText a => "JSON.stringify(" ++ a.text ++ ")"

/-- A method called, with the value it is called on. -/
inductive MethodCall (α : Type)
  | toISOString (v : Value α)
  | map (v : Value α)
  | stringify (v : Value α)

inductive Failure
  | refused
  | unbound (name : String)
  | noMethod
deriving DecidableEq

/-- The methods of values that are not described further. -/
structure Methods (α : Type) where
  toISOString : α → Except Failure (Value α)
  stringify : Value α → Except Failure (Value α)

abbrev Calling (α : Type) := Traced (MethodCall α) Failure

section Terms

variable {α : Type} (h : Methods α)

/-- Absent values have no methods, and only arrays are mapped. -/
def Term.eval (scope : List (String × Value α)) : Term → Calling α (Value α)
  | name s => Traced.lift ((scope.lookup s).elim (.error (.unbound s)) .ok)
  | absent n => pure (.absent n)
  | emptyArray => pure (.array [])
  | coalesce a b => do
    match ← a.eval scope with
    | .absent _ => b.eval scope
    | v => pure v
  | test a n b c => do
    let v ← a.eval scope
    if v.isAbsent n then b.eval scope else c.eval scope
  | isoDate a => do
    let v ← a.eval scope
    match v with
    | .other x => Traced.call (.toISOString v) (h.toISOString x)
    | _ => Traced.call (.toISOString v) (.error .noMethod)
  | mapped a parameter body => do
    let v ← a.eval scope
    match v with
    | .array items =>
      Traced.call (.map v) (.ok ())
      let results ← items.mapM fun item => body.eval ((parameter, item) :: scope)
      return .array results
    | _ => Traced.call (.map v) (.error .noMethod)
  | jsonText a => do
    let v ← a.eval scope
    Traced.call (.stringify v) (h.stringify v)

/-- A function of one parameter. -/
structure Arrow where
  parameter : String
  body : Term
deriving DecidableEq

def Arrow.text (a : Arrow) : String := "(" ++ a.parameter ++ ") => " ++ a.body.text

def Arrow.call (a : Arrow) (v : Value α) : Calling α (Value α) := a.body.eval h [(a.parameter, v)]

end Terms

def Conversion.term : Conversion → Term
  | isoDate => .isoDate (.name "value")
  | isoDates => .mapped (.name "values") "value" (.isoDate (.name "value"))
  | jsonText => .jsonText (.name "value")

namespace Function

def arrow? : Function → Option Arrow
  | orUndefined => some ⟨"value", .coalesce (.name "value") (.absent .undefined)⟩
  | orEmptyArray => some ⟨"value", .coalesce (.name "value") .emptyArray⟩
  | definedOrEmptyArray =>
    some ⟨"value", .test (.name "value") .undefined .emptyArray (.name "value")⟩
  | convert c false => some ⟨c.parameter, c.term⟩
  | convert c true =>
    some ⟨c.parameter, .test (.name c.parameter) .null (.name c.parameter) c.term⟩
  | verbatim _ => none

/-- The functions that expressions of columns apply. -/
def all : List Function :=
  [orUndefined, orEmptyArray, definedOrEmptyArray] ++
    [Conversion.isoDate, .isoDates, .jsonText].flatMap fun c => [convert c false, convert c true]

end Function

/-- The function that a text is, if it is one of those. -/
def arrowOf? (text : String) : Option Arrow :=
  (Function.all.filterMap Function.arrow?).find? fun a => a.text = text

theorem text_of_arrowOf? {text : String} {a : Arrow} (h : arrowOf? text = some a) :
    a.text = text := by simpa using List.find?_some h

theorem arrowOf?_text {f : Function} {a : Arrow} (h : f.arrow? = some a) :
    arrowOf? f.text = some a := by
  cases f with
  | verbatim text => contradiction
  | convert c guarded =>
    rw [← h]
    cases c <;> cases guarded <;> decide +kernel
  | _ =>
    rw [← h]
    decide +kernel

/-- A function is written as the text of its term. -/
theorem Function.text_arrow {f : Function} {a : Arrow} (h : f.arrow? = some a) :
    a.text = f.text := text_of_arrowOf? (arrowOf?_text h)

section Laws

variable {α : Type} (h : Methods α)

/-- The laws of wrappers in a library that validates values. A wrapper lets the value through that
it is named for, and leaves all others to the schema inside it; a function is called on what the
schema before it gives. -/
structure Lawful (parse : Expr → Value α → Calling α (Value α)) : Prop where
  nullable_null (e : Expr) : parse (.nullable e) .null = ⟨[], .ok .null⟩
  nullable_of_ne (e : Expr) {v : Value α} (hv : v ≠ .null) : parse (.nullable e) v = parse e v
  optional_undefined (e : Expr) : parse (.optional e) .undefined = ⟨[], .ok .undefined⟩
  optional_of_ne (e : Expr) {v : Value α} (hv : v ≠ .undefined) :
    parse (.optional e) v = parse e v
  transform (e : Expr) (v : Value α) {text : String} {a : Arrow} (ha : arrowOf? text = some a) :
    parse (.transform e (.verbatim text)) v = parse e v >>= a.call h

def Function.call (f : Function) (v : Value α) : Calling α (Value α) :=
  match f.arrow? with
  | some a => a.call h v
  | none => Traced.lift (.error (.unbound f.text))

/-- The functions of an expression are called as their terms say, in every spelling of schemas. -/
theorem Lawful.transform_spelled {h : Methods α} {parse : Expr → Value α → Calling α (Value α)}
    (hparse : Lawful h parse) {f : Function} (hf : f.arrow?.isSome = true)
    (spelling : Scalar → String) (e : Expr) (v : Value α) :
    parse ((Expr.transform e f).spelled spelling) v =
      parse (e.spelled spelling) v >>= f.call h := by
  obtain ⟨a, ha⟩ := Option.isSome_iff_exists.1 hf
  have hcall : f.call h = a.call h := by
    funext r
    rw [Function.call, ha]
  rw [hcall]
  exact hparse.transform _ v (arrowOf?_text ha)

/-- The library whose schemas without wrappers do what `leaf` says. -/
def Expr.evaluate (leaf : Expr → Value α → Calling α (Value α)) :
    Expr → Value α → Calling α (Value α)
  | nullable e => fun v => if v.isAbsent .null then ⟨[], .ok v⟩ else evaluate leaf e v
  | optional e => fun v => if v.isAbsent .undefined then ⟨[], .ok v⟩ else evaluate leaf e v
  | transform e f => fun v =>
    match arrowOf? f.text with
    | some a => evaluate leaf e v >>= a.call h
    | none => leaf (.transform e f) v
  | e => leaf e

theorem lawful_evaluate (leaf : Expr → Value α → Calling α (Value α)) :
    Lawful h (Expr.evaluate h leaf) where
  nullable_null e := rfl
  nullable_of_ne e v hv := if_neg fun habsent => hv (Value.isAbsent_iff.1 habsent)
  optional_undefined e := rfl
  optional_of_ne e v hv := if_neg fun habsent => hv (Value.isAbsent_iff.1 habsent)
  transform e v text a ha := by
    show (match arrowOf? text with
      | some a => Expr.evaluate h leaf e v >>= a.call h
      | none => leaf (.transform e (.verbatim text)) v) = _
    rw [ha]

end Laws

end ZodCatalog.Zod
