import ZodCatalog.Text.Words

/-!
Case styles for identifiers and file names. A style is put on the words of a name, so names that
differ only in separators or in how their words are cased take the same form.
-/

namespace ZodCatalog

open Text

inductive Casing
  | camel
  | pascal
  | snake
  | kebab
  | passthrough
deriving Repr, DecidableEq, Inhabited

namespace Casing

def all : List Casing := [camel, pascal, snake, kebab, passthrough]

/-- The spelling used in configurations. -/
def name : Casing → String
  | camel => "camel"
  | pascal => "pascal"
  | snake => "snake"
  | kebab => "kebab"
  | passthrough => "passthrough"

def aliases : Casing → List String
  | camel => ["camelCase"]
  | pascal => ["PascalCase"]
  | snake => ["snake_case"]
  | kebab => ["kebab-case"]
  | passthrough => []

def camelWords : List (List Char) → List Char
  | [] => []
  | w :: ws => lowerWord w ++ ws.flatMap capitalWord

/-- The words of a text in a style; `passthrough` keeps the text. -/
def onChars (style : Casing) (s : List Char) : List Char :=
  match style with
  | camel => camelWords (words s)
  | pascal => (words s).flatMap capitalWord
  | snake => joinWith ['_'] ((words s).map lowerWord)
  | kebab => joinWith ['-'] ((words s).map lowerWord)
  | passthrough => s

def apply (style : Casing) (s : String) : String := String.ofList (style.onChars s.toList)

end Casing

/-- Upper-case words joined by low lines, the style of constants. -/
def shouting (s : List Char) : List Char := joinWith ['_'] ((words s).map upperWord)

theorem Casing.apply_passthrough (s : String) : Casing.passthrough.apply s = s := by
  simp [Casing.apply, Casing.onChars]

end ZodCatalog
