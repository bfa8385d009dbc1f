import Mathlib.Tactic.Tauto
import ZodCatalog.Module.Text
import ZodCatalog.Proofs.ClauseReaders

/-! Texts of calls, such as `a.f(x, y).g(z)`. A text is cut at its dots and its arguments at their
commas, as far as these stand outside of quotes and parentheses. -/

namespace ZodCatalog
namespace CallText
open Text Check ModuleText

/-- The pieces between the separators outside of quotes and parentheses. -/
def topPieces (sep : Char) (n : Nesting) : List Char → List (List Char)
  | [] => [[]]
  | c :: r =>
    if n.isTop && c == sep then [] :: topPieces sep n r
    else pushHead c (topPieces sep (n.next c) r)

/-- A name, with the text between its parentheses if it is called. -/
structure Link where
  name : String
  arguments : Option String
deriving DecidableEq

def link? (s : List Char) : Option Link :=
  let name := s.takeWhile isIdentifierPart
  let rest := s.dropWhile isIdentifierPart
  if !isIdentifier name then none
  else if rest.isEmpty then some ⟨String.ofList name, none⟩
  else if isWrapped rest then some ⟨String.ofList name, some (String.ofList (inner rest))⟩
  else none

/-- The links of a text between its dots. -/
def links (s : String) : Option (List Link) := (topPieces '.' .start s.toList).mapM link?

/-- The arguments of a call, without the blanks after commas. -/
def argumentList (s : String) : List String :=
  match topPieces ',' .start s.toList with
  | [] => []
  | first :: others =>
    String.ofList first :: others.map fun piece => String.ofList (piece.dropWhile (· == ' '))

def callText (f arguments : String) : String := f ++ "(" ++ arguments ++ ")"

/-- A call on what a text stands for. -/
def methodText (s f arguments : String) : String := s ++ "." ++ callText f arguments

/-- The characters that texts of calls are cut at. -/
def IsSeparator (sep : Char) : Prop := sep = '.' ∨ sep = ','

/-- A text that is no more than a piece wherever it is cut. -/
structure Unbroken (sep : Char) (s : String) : Prop where
  balanced : Balanced s.toList
  passes : ∀ r, topPieces sep .start (s.toList ++ r) = pushText s.toList (topPieces sep .start r)

section Pieces

variable {sep : Char}

theorem IsSeparator.not_mem (h : IsSeparator sep) : sep ∉ ['\'', '(', ')'] := by
  rcases h with rfl | rfl <;> decide

theorem IsSeparator.isIdentifierPart (h : IsSeparator sep) : isIdentifierPart sep = false := by
  rcases h with rfl | rfl <;> decide

theorem passesInside_topPieces (hsep : IsSeparator sep) :
    PassesInside (topPieces sep) pushHead where
  step n c r hc := by
    have hquote : '\'' ≠ sep := fun heq => hsep.not_mem (by simp [← heq])
    rw [topPieces, if_neg]
    rcases hc with rfl | ⟨hn, -⟩
    · simp [hquote]
    · simp [hn]

theorem topPieces_ne_nil (sep : Char) (s : List Char) : topPieces sep .start s ≠ [] := by
  cases s with
  | nil => simp [topPieces]
  | cons c s =>
    rw [topPieces]
    split
    · simp
    · cases topPieces sep (Nesting.start.next c) s <;> simp [pushHead]

theorem topPieces_cons {c : Char} (hc : c ∉ ['\'', '(', ')']) (hne : c ≠ sep) (r : List Char) :
    topPieces sep .start (c :: r) = pushHead c (topPieces sep .start r) := by
  have hnext : Nesting.next .start c = .start := Nesting.next_plain hc 0
  rw [topPieces, hnext, if_neg (by simp [hne])]

variable (hsep : IsSeparator sep)
include hsep

theorem topPieces_quoteLiteral (v r : List Char) : topPieces sep .start (quoteLiteral v ++ r) =
    pushText (quoteLiteral v) (topPieces sep .start r) :=
  (passesInside_topPieces hsep).quoteLiteral 0 v r

/-- Parentheses that belong together are passed over with all that is between them. -/
theorem topPieces_group {s : List Char} (hs : Balanced s) (r : List Char) :
    topPieces sep .start ('(' :: (s ++ ')' :: r)) =
      pushText ('(' :: (s ++ [')'])) (topPieces sep .start r) := by
  have hne : '(' ≠ sep := fun heq => hsep.not_mem (by simp [← heq])
  have hopen : topPieces sep .start ('(' :: (s ++ ')' :: r)) =
      pushHead '(' (topPieces sep ⟨0 + 1, false⟩ (s ++ ')' :: r)) := by
    rw [topPieces, if_neg (by simp [hne])]
    rfl
  have hclose : topPieces sep ⟨0 + 1, false⟩ (')' :: r) =
      pushHead ')' (topPieces sep .start r) := by
    rw [topPieces, if_neg (by simp [Nesting.isTop])]
    rfl
  rw [hopen, (passesInside_topPieces hsep).balanced hs, hclose, ← List.cons_append,
    pushText_append]
  rfl

/-- A balanced text in front of a separator is cut as if it stood alone. -/
theorem topPieces_append_sep {s : List Char} (hs : Balanced s) (r : List Char) :
    topPieces sep .start (s ++ sep :: r) = topPieces sep .start s ++ topPieces sep .start r := by
  have hpush (s t more : List Char) :
      pushText s (topPieces sep .start t ++ topPieces sep .start more) =
        pushText s (topPieces sep .start t) ++ topPieces sep .start more := by
    obtain ⟨piece, pieces, h⟩ := List.exists_cons_of_ne_nil (topPieces_ne_nil sep t)
    rw [h, List.cons_append, pushText_cons_piece, pushText_cons_piece, List.cons_append]
  induction hs with
  | nil => simp [topPieces, Nesting.start, Nesting.isTop]
  | @plain c s hc _ ih =>
    -- The text may be cut itself, so the separator is looked for at each of its characters.
    by_cases heq : c = sep
    · subst heq
      simp only [List.cons_append, topPieces, ih]
      simp [Nesting.start, Nesting.isTop]
    · rw [List.cons_append, topPieces_cons hc heq, topPieces_cons hc heq, ih]
      exact hpush [c] s r
  | @literal v s _ ih =>
    rw [List.append_assoc, topPieces_quoteLiteral hsep, topPieces_quoteLiteral hsep, ih]
    exact hpush (quoteLiteral v) s r
  | @group s t hs _ _ ih =>
    rw [List.cons_append, List.append_assoc, List.cons_append, topPieces_group hsep hs,
      topPieces_group hsep hs, ih]
    exact hpush ('(' :: (s ++ [')'])) t r

theorem topPieces_of_not_mem {s : List Char} (hs : Balanced s) (h : sep ∉ s) (r : List Char) :
    topPieces sep .start (s ++ r) = pushText s (topPieces sep .start r) := by
  induction hs with
  | nil => rfl
  | @plain c s hc _ ih =>
    have hne : c ≠ sep := fun heq => h (heq ▸ List.mem_cons_self)
    rw [List.cons_append, topPieces_cons hc hne, ih fun hm => h (List.mem_cons_of_mem _ hm)]
    rfl
  | literal v _ ih =>
    rw [List.append_assoc, topPieces_quoteLiteral hsep,
      ih fun hm => h (List.mem_append_right _ hm), pushText_append]
  | @group s t hs _ _ ih =>
    have hrest : sep ∉ t := fun hm => h (by simp [hm])
    have htext : '(' :: (s ++ ')' :: t) = '(' :: (s ++ [')']) ++ t := by simp
    rw [List.cons_append, List.append_assoc, List.cons_append, topPieces_group hsep hs, ih hrest,
      htext, pushText_append]

end Pieces

theorem forall_isIdentifierPart {s : List Char} (h : isIdentifier s = true) :
    ∀ c ∈ s, isIdentifierPart c = true := by
  cases s with
  | nil => contradiction
  | cons c s =>
    have hparts : isIdentifierStart c = true ∧ ∀ d ∈ s, isIdentifierPart d = true := by
      simpa [isIdentifier] using h
    have hc : isIdentifierPart c = true := by
      have hstart := hparts.1
      simp only [isIdentifierStart, isIdentifierPart, Char.isAlphanum, Bool.or_eq_true] at hstart ⊢
      tauto
    simpa [hc] using hparts.2

namespace Unbroken

variable {sep : Char} {s t f arguments : String}

theorem append (hs : Unbroken sep s) (ht : Unbroken sep t) : Unbroken sep (s ++ t) where
  balanced := by
    rw [String.toList_append]
    exact hs.balanced.append ht.balanced
  passes r := by
    rw [String.toList_append, List.append_assoc, hs.passes, ht.passes, pushText_append]

theorem topPieces_eq (hs : Unbroken sep s) : topPieces sep .start s.toList = [s.toList] := by
  have h := hs.passes []
  rw [List.append_nil, topPieces, pushText_cons_piece, List.append_nil] at h
  exact h

variable (hsep : IsSeparator sep)
include hsep

theorem of_not_mem (hs : Balanced s.toList) (h : sep ∉ s.toList) : Unbroken sep s :=
  ⟨hs, topPieces_of_not_mem hsep hs h⟩

theorem identifier (h : isIdentifier s.toList = true) : Unbroken sep s := by
  have hparts := forall_isIdentifierPart h
  have hnot {c : Char} (hc : isIdentifierPart c = false) : c ∉ s.toList := by
    intro hmem
    rw [hparts c hmem] at hc
    contradiction
  refine of_not_mem hsep (.of_plain fun c hc hmem => ?_) (hnot hsep.isIdentifierPart)
  have hpart : isIdentifierPart c = false := by
    simp only [List.mem_cons, List.not_mem_nil, or_false] at hmem
    rcases hmem with rfl | rfl | rfl <;> decide
  exact hnot hpart hc

theorem call (hf : isIdentifier f.toList = true) (harguments : Balanced arguments.toList) :
    Unbroken sep (callText f arguments) := by
  have hgroup : Unbroken sep ("(" ++ arguments ++ ")") := {
    balanced := by simpa using Balanced.group harguments .nil
    passes := fun r => by simpa using topPieces_group hsep harguments r }
  have h := (identifier hsep hf).append hgroup
  rwa [← String.append_assoc, ← String.append_assoc] at h

omit hsep in
theorem method (hs : Unbroken ',' s) (hf : isIdentifier f.toList = true)
    (harguments : Balanced arguments.toList) : Unbroken ',' (methodText s f arguments) := by
  have hdot : Unbroken ',' "." := of_not_mem (.inr rfl) (.of_settles (by decide)) (by decide)
  exact (hs.append hdot).append (call (.inr rfl) hf harguments)

end Unbroken

section Links

variable {s f arguments : String}

theorem link?_identifier (h : isIdentifier s.toList = true) :
    link? s.toList = some ⟨s, none⟩ := by
  have hparts := forall_isIdentifierPart h
  have htake : s.toList.takeWhile isIdentifierPart = s.toList :=
    List.takeWhile_eq_self_iff.2 hparts
  have hdrop : s.toList.dropWhile isIdentifierPart = [] := List.dropWhile_eq_nil_iff.2 hparts
  simp [link?, htake, hdrop, h]

theorem link?_callText (h : isIdentifier f.toList = true)
    (harguments : Balanced arguments.toList) :
    link? (callText f arguments).toList = some ⟨f, some arguments⟩ := by
  have hparts := forall_isIdentifierPart h
  have htext : (callText f arguments).toList = f.toList ++ '(' :: (arguments.toList ++ [')']) := by
    simp [callText]
  have hopen : isIdentifierPart '(' = false := by decide
  have htake : (callText f arguments).toList.takeWhile isIdentifierPart = f.toList := by
    rw [htext, List.takeWhile_append_of_pos hparts, List.takeWhile_cons_of_neg (by simp [hopen]),
      List.append_nil]
  have hdrop : (callText f arguments).toList.dropWhile isIdentifierPart =
      '(' :: (arguments.toList ++ [')']) := by
    rw [htext, List.dropWhile_append_of_pos hparts, List.dropWhile_cons_of_neg (by simp [hopen])]
  have hwrapped : isWrapped ('(' :: (arguments.toList ++ [')'])) = true := by
    have hclose := closesAtEnd_group harguments []
    rw [isWrapped, hclose, ← List.cons_append, List.getLast?_concat]
    rfl
  simp [link?, htake, hdrop, h, hwrapped, inner_wrapped]

theorem links_identifier (h : isIdentifier s.toList = true) : links s = some [⟨s, none⟩] := by
  have hpieces := (Unbroken.identifier (.inl rfl) h).topPieces_eq
  rw [links, hpieces, List.mapM_cons, link?_identifier h]
  rfl

theorem links_methodText (hs : Balanced s.toList) (hf : isIdentifier f.toList = true)
    (harguments : Balanced arguments.toList) : links (methodText s f arguments) =
      (links s).map fun ls => ls ++ [⟨f, some arguments⟩] := by
  have htext : (methodText s f arguments).toList =
      s.toList ++ '.' :: (callText f arguments).toList := by simp [methodText]
  have hpieces := (Unbroken.call (.inl rfl) hf harguments).topPieces_eq
  rw [links, htext, topPieces_append_sep (.inl rfl) hs, hpieces, List.mapM_append,
    List.mapM_cons, link?_callText hf harguments, links]
  cases (topPieces '.' .start s.toList).mapM link? <;> rfl

end Links

section Arguments

variable {s : String}

theorem argumentList_singleton (hs : Unbroken ',' s) : argumentList s = [s] := by
  rw [argumentList, hs.topPieces_eq]
  simp

/-- The blank after a comma goes with it, unless the next argument starts with another one. -/
theorem argumentList_append (hs : Unbroken ',' s) {t : String} {c : Char} {r : List Char}
    (ht : t.toList = c :: r) (hc : c ∉ ['\'', '(', ')', ',', ' ']) :
    argumentList (s ++ ", " ++ t) = s :: argumentList t := by
  simp only [List.mem_cons, List.not_mem_nil, or_false, not_or] at hc
  have htext : (s ++ ", " ++ t).toList = s.toList ++ ',' :: ' ' :: t.toList := by simp
  have hnext : topPieces ',' .start (' ' :: t.toList) =
      pushHead ' ' (topPieces ',' .start t.toList) := topPieces_cons (by decide) (by decide) _
  have hhead : topPieces ',' .start t.toList = pushHead c (topPieces ',' .start r) := by
    rw [ht]
    exact topPieces_cons (by simp [hc]) hc.2.2.2.1 r
  obtain ⟨piece, pieces, hpieces⟩ :=
    List.exists_cons_of_ne_nil (topPieces_ne_nil ',' r)
  rw [argumentList, argumentList, htext, topPieces_append_sep (.inr rfl) hs.balanced,
    hs.topPieces_eq, hnext, hhead, hpieces]
  simp [pushHead, hc.2.2.2.2]

end Arguments

end CallText
end ZodCatalog
