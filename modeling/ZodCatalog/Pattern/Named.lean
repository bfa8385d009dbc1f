import ZodCatalog.Pattern.Age
import ZodCatalog.Pattern.Break
import ZodCatalog.Pattern.ScriptUse

/-!
Sets of characters by the names of their properties.
-/

namespace ZodCatalog.Pattern.CharSet

open Text

/--
A name without blanks, hyphens and low lines, in lower case, less a leading `is`; the abbreviation
`isc` keeps it.
-/
def plainName (name : List Char) : List Char :=
  let plain (s : List Char) : List Char :=
    (s.filter fun c => isAscii c && c != ' ' && c != '-' && c != '_').map Char.toLower
  match name with
  | i :: s :: r =>
    if i.toLower = 'i' && s.toLower = 's' then
      let rest := plain r
      if rest = ['c'] then ['i', 's', 'c'] else rest
    else plain name
  | _ => plain name

def lookupName {α : Type} (table : List (List String × α)) (name : List Char) : Option α :=
  (table.find? fun (names, _) => names.any (·.toList == name)).map Prod.snd

/-- The set of a property given by one name: a property, a category or a script. -/
def propertyNamed? (name : List Char) : Option CharSet :=
  let name := plainName name
  ((lookupName Property.all name).orElse fun _ => lookupName byCategory name).orElse
    fun _ => (lookupName Script.all name).map spans

/-- The set of a property with a value. -/
def propertyValue? (property value : List Char) : Option CharSet :=
  let value := plainName value
  match String.ofList (plainName property) with
  | "gc" | "generalcategory" => lookupName byCategory value
  | "sc" | "script" => (lookupName Script.all value).map spans
  | "scx" | "scriptextensions" => (Script.named? value).map Script.usedIn
  | "age" => Age.named? value
  | "gcb" | "graphemeclusterbreak" => lookupName Break.graphemes value
  | "wb" | "wordbreak" => lookupName Break.words value
  | "sb" | "sentencebreak" => lookupName Break.sentences value
  | _ => .none

end ZodCatalog.Pattern.CharSet
