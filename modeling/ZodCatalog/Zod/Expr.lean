import ZodCatalog.Zod.Dialect

/-!
Schema expressions as trees, and how a dialect writes them. The tree does not depend on the
dialect; chained and functional composition are two ways of writing one tree.
-/

namespace ZodCatalog.Zod

inductive Scalar
  | string
  | email
  | url
  | uuid
  | integer
  | number
  | boolean
  | date
  | coercedDate
  | json
  | any
deriving Repr, DecidableEq

/-- A refinement or overwrite of a scalar. -/
inductive Check
  | trim
  | lowercase
  | uppercase
  | normalize
  | maxLength (n : Int32)
  | nonNegative
deriving Repr, DecidableEq

/-- What a stringifying transform makes of a value. -/
inductive Conversion
  | isoDate
  | isoDates
  | jsonText
deriving Repr, DecidableEq

/-- A function applied to a validated value. -/
inductive Function
  /-- Null and undefined become undefined. -/
  | orUndefined
  /-- Null and undefined become the empty array. -/
  | orEmptyArray
  /-- Undefined becomes the empty array. -/
  | definedOrEmptyArray
  /-- Converts a value; a guarded conversion lets null through. -/
  | convert (c : Conversion) (guarded : Bool)
  | verbatim (text : String)
deriving Repr, DecidableEq

inductive Expr
  | scalar (s : Scalar)
  /-- An expression given by its text, such as a name. -/
  | verbatim (text : String)
  | enum (constant : String)
  | array (element : Expr)
  | checked (e : Expr) (checks : List Check)
  | nullable (e : Expr)
  | optional (e : Expr)
  | transform (e : Expr) (f : Function)
  /-- An object schema with every field optional. -/
  | partialOf (e : Expr)
deriving Repr, DecidableEq

def Scalar.text (p : DialectProfile) : Scalar → String
  | string => "z.string()"
  | email => p.email
  | url => p.url
  | uuid => p.uuid
  | integer => p.integer
  | number => "z.number()"
  | boolean => "z.boolean()"
  | date => "z.date()"
  | coercedDate => "z.coerce.date()"
  | json => p.json
  | any => "z.any()"

namespace Check

def method : Check → String
  | trim => ".trim()"
  | lowercase => ".toLowerCase()"
  | uppercase => ".toUpperCase()"
  | normalize => ".normalize()"
  | maxLength n => ".max(" ++ toString n.toInt ++ ")"
  | nonNegative => ".nonnegative()"

def argument : Check → String
  | trim => "z.trim()"
  | lowercase => "z.toLowerCase()"
  | uppercase => "z.toUpperCase()"
  | normalize => "z.normalize()"
  | maxLength n => "z.maxLength(" ++ toString n.toInt ++ ")"
  | nonNegative => "z.nonnegative()"

end Check

namespace Conversion

def parameter : Conversion → String
  | isoDate => "value"
  | isoDates => "values"
  | jsonText => "value"

def body : Conversion → String
  | isoDate => "value.toISOString()"
  | isoDates => "values.map((value) => value.toISOString())"
  | jsonText => "JSON.stringify(value)"

end Conversion

def Function.text : Function → String
  | orUndefined => "(value) => value ?? undefined"
  | orEmptyArray => "(value) => value ?? []"
  | definedOrEmptyArray => "(value) => (value === undefined ? [] : value)"
  | convert c false => "(" ++ c.parameter ++ ") => " ++ c.body
  | convert c true =>
    "(" ++ c.parameter ++ ") => (" ++ c.parameter ++ " === null ? " ++ c.parameter ++ " : " ++
      c.body ++ ")"
  | verbatim text => text

namespace Expr

/-- Checks on an expression already written; without checks nothing is added. -/
def checksText (composition : Composition) (e : String) (checks : List Check) : String :=
  match checks, composition with
  | [], _ => e
  | cs, .chained => e ++ String.join (cs.map Check.method)
  | cs, .functional => e ++ ".check(" ++ String.intercalate ", " (cs.map Check.argument) ++ ")"

def nullableText : Composition → String → String
  | .chained, e => e ++ ".nullable()"
  | .functional, e => "z.nullable(" ++ e ++ ")"

def optionalText : Composition → String → String
  | .chained, e => e ++ ".optional()"
  | .functional, e => "z.optional(" ++ e ++ ")"

def transformText : Composition → String → String → String
  | .chained, e, f => e ++ ".transform(" ++ f ++ ")"
  | .functional, e, f => "z.pipe(" ++ e ++ ", z.transform(" ++ f ++ "))"

def partialText : Composition → String → String
  | .chained, e => e ++ ".partial()"
  | .functional, e => "z.partial(" ++ e ++ ")"

def text (p : DialectProfile) : Expr → String
  | scalar s => s.text p
  | verbatim text => text
  | enum constant => "z.enum(" ++ constant ++ ")"
  | array e => "z.array(" ++ text p e ++ ")"
  | checked e checks => checksText p.composition (text p e) checks
  | nullable e => nullableText p.composition (text p e)
  | optional e => optionalText p.composition (text p e)
  | transform e f => transformText p.composition (text p e) f.text
  | partialOf e => partialText p.composition (text p e)

end Expr

end ZodCatalog.Zod
