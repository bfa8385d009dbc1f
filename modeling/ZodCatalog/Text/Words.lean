import ZodCatalog.Text.LetterCase
import ZodCatalog.Text.Split

/-!
The words of a name: its runs of letters and digits, cut again where the case of the letters
shows a new word. Main statement: the words hold the letters and digits of the name, each once
and in order.
-/

namespace ZodCatalog.Text

/-- Which case the letters of a word had so far. -/
inductive Stretch
  | fresh
  | lower
  | upper
deriving Repr, DecidableEq

/-- Letters set the stretch, characters without case leave it. -/
def Stretch.next (m : Stretch) (c : Char) : Stretch :=
  if isLowercase c then .lower else if isUppercase c then .upper else m

/--
The words of a run of letters and digits. A word ends before an upper-case letter that follows
lower case, and before the last of several upper-case letters when lower case follows it.
-/
def humps : Stretch → List Char → List (List Char)
  | _, [] => []
  | _, [c] => [[c]]
  | m, c :: d :: r =>
    if m.next c = .lower && isUppercase d then [c] :: humps .fresh (d :: r)
    else if m = .upper && isUppercase c && isLowercase d then
      [] :: pushHead c (humps .fresh (d :: r))
    else pushHead c (humps (m.next c) (d :: r))

def words (s : List Char) : List (List Char) :=
  (splitWhere (fun c => !isAlphanumeric c) s).flatMap (humps .fresh)

/-- A word in lower case; a sigma at its end takes its final form. -/
def lowerWord : List Char → List Char
  | [] => []
  | [c] => if c == 'Σ' then ['ς'] else lowerChar c
  | c :: r => lowerChar c ++ lowerWord r

def upperWord (w : List Char) : List Char := upper w

/-- A word with its first letter in upper and the others in lower case. -/
def capitalWord : List Char → List Char
  | [] => []
  | c :: r => upperChar c ++ lowerWord r

@[simp] theorem flatten_pushHead (c : Char) (pieces : List (List Char)) :
    (pushHead c pieces).flatten = c :: pieces.flatten := by
  cases pieces <;> simp [pushHead]

theorem flatten_humps (m : Stretch) (s : List Char) : (humps m s).flatten = s := by
  fun_induction humps m s <;> simp_all

@[simp] theorem words_nil : words [] = [] := rfl

theorem flatten_splitWhere (p : Char → Bool) (s : List Char) :
    (splitWhere p s).flatten = s.filter (fun c => !p c) := by
  induction s with
  | nil => rfl
  | cons c r ih => by_cases hc : p c = true <;> simp [splitWhere, hc, ih]

theorem flatten_words (s : List Char) : (words s).flatten = s.filter isAlphanumeric := by
  have h : ∀ runs : List (List Char), (runs.flatMap (humps .fresh)).flatten = runs.flatten := by
    intro runs
    induction runs with
    | nil => rfl
    | cons run runs ih => simp [ih, flatten_humps]
  rw [words, h, flatten_splitWhere]
  simp

end ZodCatalog.Text
