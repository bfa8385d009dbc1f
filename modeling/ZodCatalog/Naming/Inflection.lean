import ZodCatalog.Text.LetterCase
import ZodCatalog.Text.Split

/-!
English plurals of table and column names. The rules look at the lower form of the last segment
of a name, the segments being separated by low lines.
-/

namespace ZodCatalog.Inflection

open Text

/-- Nouns with one form for both numbers. -/
def uncountable : List String :=
  ["news", "series", "species", "data", "metadata", "information", "equipment"]

/-- Singular nouns that end like plurals. -/
def pluralLookalikes : List String := ["status", "analysis", "basis", "axis", "crisis", "thesis"]

/-- Nouns with a plural of their own, singular first. -/
def irregular : List (String × String) :=
  [("child", "children"), ("person", "people"), ("man", "men"), ("woman", "women"),
   ("mouse", "mice"), ("goose", "geese"), ("tooth", "teeth"), ("foot", "feet"),
   ("index", "indices"), ("criterion", "criteria"), ("analysis", "analyses"),
   ("basis", "bases"), ("axis", "axes"), ("crisis", "crises"), ("thesis", "theses")]

/-- Plural endings that lose two letters. -/
def sibilantPlurals : List String := ["xes", "ches", "shes", "ses", "zes", "oes"]

def isOneOf (nouns : List String) (w : List Char) : Bool := nouns.any (·.toList == w)

def endsWithOneOf (endings : List String) (w : List Char) : Bool :=
  endings.any (·.toList.isSuffixOf w)

/-- The word without its last `n` characters. -/
def dropEnd (n : Nat) (w : List Char) : List Char := w.take (w.length - n)

/-- The replacement, capitalized when the word it stands for starts in upper case. -/
def withCaseOf (word : List Char) (replacement : String) : List Char :=
  match word with
  | c :: _ =>
    if isUppercase c then capitalizeFirst replacement.toList else replacement.toList
  | [] => replacement.toList

def singularWord (word : List Char) : List Char :=
  let low := lower word
  if isOneOf uncountable low || isOneOf pluralLookalikes low ||
      endsWithOneOf ["ss", "us", "is"] low then word
  else
    match irregular.find? (·.2.toList == low) with
    | some (singular, _) => withCaseOf word singular
    | none =>
      if low.length > 3 && endsWithOneOf ["ies"] low then dropEnd 3 word ++ ['y']
      else if endsWithOneOf sibilantPlurals low then dropEnd 2 word
      else if low.length > 1 && endsWithOneOf ["s"] low then dropEnd 1 word
      else word

/-- A `y` after a consonant; the text is given from its end. -/
def endsInConsonantY : List Char → Bool
  | 'y' :: c :: _ => !(['a', 'e', 'i', 'o', 'u'].contains c)
  | _ => false

def pluralWord (word : List Char) : List Char :=
  let low := lower word
  if isOneOf uncountable low then word
  else
    match irregular.find? (·.1.toList == low) with
    | some (_, plural) => withCaseOf word plural
    | none =>
      if endsInConsonantY low.reverse then dropEnd 1 word ++ "ies".toList
      else if low.length > 2 && endsWithOneOf ["is"] low then dropEnd 2 word ++ "es".toList
      else if endsWithOneOf ["s", "x", "z", "ch", "sh"] low then word ++ "es".toList
      else word ++ ['s']

/-- Rewrites the text after the last low line, or the whole text if nothing follows one. -/
def onLastSegment (f : List Char → List Char) (s : List Char) : List Char :=
  match cutLast (· == '_') s with
  | some (head, last) => if last.isEmpty then f s else head ++ '_' :: f last
  | none => f s

def singularChars (s : List Char) : List Char := onLastSegment singularWord s

def pluralChars (s : List Char) : List Char := onLastSegment pluralWord s

end Inflection

def singularize (name : String) : String :=
  String.ofList (Inflection.singularChars name.toList)

def pluralize (name : String) : String := String.ofList (Inflection.pluralChars name.toList)

end ZodCatalog
