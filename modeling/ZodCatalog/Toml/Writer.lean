import ZodCatalog.Document.Json

/-!
Records written as TOML: the plain fields first, then each record under a header of its own.
Fields without a value are left out.
-/

namespace ZodCatalog.Toml

open Document

mutual

def inlineText : Value → String
  | .list items => "[" ++ inlineItems items ++ "]"
  | v => Json.scalar v

def inlineItems : List Value → String
  | [] => ""
  | [v] => inlineText v
  | v :: vs => inlineText v ++ ", " ++ inlineItems vs

end

def isPlainField : String × Value → Bool
  | (_, .null) => false
  | (_, .record _) => false
  | _ => true

def assignment : String × Value → String
  | (key, v) => key ++ " = " ++ inlineText v ++ "\n"

def assignments (fs : Fields) : String := String.join ((fs.filter isPlainField).map assignment)

/-- A record of the document under its header. -/
def headed : String × Value → String
  | (key, .record fs) => "\n[" ++ key ++ "]\n" ++ assignments fs
  | _ => ""

def write (fs : Fields) : String := assignments fs ++ String.join (fs.map headed)

end ZodCatalog.Toml
