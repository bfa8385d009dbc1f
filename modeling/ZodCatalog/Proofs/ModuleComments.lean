import Mathlib.Data.List.Chain
import Mathlib.Data.List.DropRight
import Mathlib.Data.List.TakeWhile
import ZodCatalog.Proofs.ConstantValues
import ZodCatalog.Proofs.LiteralLists

/-! The comments of a module read as source text. A description stays in the comment that is written
for it: no way of breaking it up, cutting it into lines and trimming these lines brings a star and
a slash together. The heading is written as it is, so that a name with the end of a line leaves its
comment. -/

namespace ZodCatalog

namespace Text

section Neighbours

variable {α : Type} {R : α → α → Prop}

/-- Between two chains that do not fit there is no other place where neighbours do not fit. -/
theorem eq_of_broken_chain {s t u v : List α} {a b c d : α} (hs : (s ++ [a]).IsChain R)
    (ht : (b :: t).IsChain R) (hcd : ¬R c d) (h : s ++ a :: b :: t = u ++ c :: d :: v) :
    u = s ∧ v = t := by
  induction s generalizing u with
  | nil =>
    cases u with
    | nil =>
      obtain ⟨-, -, rfl⟩ : a = c ∧ b = d ∧ t = v := by simpa using h
      exact ⟨rfl, rfl⟩
    | cons x u =>
      have hrest : b :: t = u ++ c :: d :: v := (List.cons.inj h).2
      exact absurd (List.isChain_iff_forall_rel_of_append_cons_cons.1 ht hrest) hcd
  | cons x s ih =>
    cases u with
    | nil =>
      obtain ⟨rfl, hrest⟩ := List.cons.inj h
      obtain ⟨y, r, hy⟩ : ∃ y r, s ++ [a] = y :: r := List.exists_cons_of_ne_nil (by simp)
      have hd : y = d := by
        have hhead : s ++ [a] ++ b :: t = d :: v := by simpa using hrest
        rw [hy] at hhead
        exact (List.cons.inj hhead).1
      rw [List.cons_append, hy, hd] at hs
      exact absurd (List.isChain_cons_cons.1 hs).1 hcd
    | cons y u =>
      obtain ⟨rfl, hrest⟩ := List.cons.inj h
      have htail : (s ++ [a]).IsChain R := (List.isChain_cons.1 hs).2
      obtain ⟨rfl, hv⟩ := ih htail hrest
      exact ⟨rfl, hv⟩

end Neighbours

section Pieces

variable {p : Char → Bool} {s : List Char}

/-- The pieces of a text are parts of it, the first one at its start. -/
theorem exists_splitWhere (p : Char → Bool) (s : List Char) : ∃ piece pieces,
    splitWhere p s = piece :: pieces ∧ piece <+: s ∧ ∀ q ∈ pieces, q <:+: s := by
  induction s with
  | nil => exact ⟨[], [], rfl, List.nil_prefix, nofun⟩
  | cons c r ih =>
    obtain ⟨piece, pieces, hsplit, hfirst, hothers⟩ := ih
    have hinfix : ∀ q ∈ pieces, q <:+: c :: r := fun q hq => List.infix_cons (hothers q hq)
    unfold splitWhere
    split
    · have hpiece : piece <:+: c :: r := List.infix_cons hfirst.isInfix
      refine ⟨[], piece :: pieces, by rw [hsplit], List.nil_prefix, ?_⟩
      exact List.forall_mem_cons.2 ⟨hpiece, hinfix⟩
    · refine ⟨c :: piece, pieces, by rw [hsplit, pushHead], ?_, hinfix⟩
      exact List.cons_prefix_cons.2 ⟨rfl, hfirst⟩

theorem infix_of_mem_splitWhere {piece : List Char} (h : piece ∈ splitWhere p s) :
    piece <:+: s := by
  obtain ⟨first, others, hsplit, hfirst, hothers⟩ := exists_splitWhere p s
  rw [hsplit] at h
  rcases List.mem_cons.1 h with rfl | h
  · exact hfirst.isInfix
  · exact hothers piece h

theorem length_splitWhere (p : Char → Bool) (s : List Char) :
    (splitWhere p s).length = s.countP p + 1 := by
  have hpush (c : Char) {pieces : List (List Char)} (h : pieces ≠ []) :
      (pushHead c pieces).length = pieces.length := by
    cases pieces with
    | nil => contradiction
    | cons piece pieces => rfl
  induction s with
  | nil => rfl
  | cons c r ih =>
    unfold splitWhere
    split
    · next hc => rw [List.length_cons, ih, List.countP_cons_of_pos hc]
    · next hc => rw [hpush c (splitWhere_ne_nil p r), ih, List.countP_cons_of_neg hc]

/-- The text of lines, each with its end. -/
def linesText (lines : List (List Char)) : List Char := lines.flatMap (· ++ ['\n'])

theorem splitOnChar_linesText {lines : List (List Char)} (h : ∀ line ∈ lines, '\n' ∉ line) :
    splitOnChar '\n' (linesText lines) = lines ++ [[]] := by
  induction lines with
  | nil => rfl
  | cons line lines ih =>
    rw [List.forall_mem_cons] at h
    have htext : linesText (line :: lines) = line ++ '\n' :: linesText lines := by
      simp [linesText]
    have hrest := ih h.2
    rw [splitOnChar] at hrest
    rw [htext, splitOnChar, splitWhere_append_cons (p := (· == '\n')) (beq_self_eq_true _),
      splitWhere_of_none (beq_eq_false_of_not_mem h.1), hrest]
    rfl

end Pieces

theorem isPrefix_trimEnd (s : List Char) : trimEnd s <+: s := List.rdropWhile_prefix isBlank s

theorem trim_eq_nil_iff {s : List Char} : trim s = [] ↔ allBlank s = true := by
  have hend (t : List Char) : trimEnd t = [] ↔ ∀ c ∈ t, isBlank c = true :=
    List.rdropWhile_eq_nil_iff
  unfold allBlank
  rw [trim, hend, List.all_eq_true]
  refine ⟨fun h c hc => ?_, fun h c hc => h c ((List.dropWhile_sublist _).mem hc)⟩
  rw [← List.takeWhile_append_dropWhile (p := isBlank) (l := s)] at hc
  rcases List.mem_append.1 hc with hc | hc
  · exact List.mem_takeWhile_imp hc
  · exact h c hc

/-- The first character of a trimmed text is not blank. -/
theorem exists_of_trim_ne_nil {s : List Char} (h : trim s ≠ []) :
    ∃ c r, trim s = c :: r ∧ isBlank c = false := by
  have hstart : trimStart s ≠ [] := by
    intro hnil
    rw [trim, hnil] at h
    contradiction
  obtain ⟨c, r, hcons⟩ := List.exists_cons_of_ne_nil hstart
  have hc : isBlank c = false := by
    have hhead := List.head?_dropWhile_not isBlank s
    rw [show s.dropWhile isBlank = c :: r from hcons] at hhead
    simpa using hhead
  refine ⟨c, trimEnd r, ?_, hc⟩
  rw [trim, hcons]
  exact trimEnd_append hc [] r

end Text

namespace ModuleText
open Text
open Check (forall_mem_of_all)

/-- Neighbours in a text that do not end a comment. -/
def Apart (c d : Char) : Prop := ¬(c = '*' ∧ d = '/')

section Apart

variable {s t : List Char}

theorem isChain_append_of_head (hs : s.IsChain Apart) (ht : t.IsChain Apart)
    (h : t.head? ≠ some '/') : (s ++ t).IsChain Apart := by
  refine hs.append ht fun c _ d hd hcd => h ?_
  rw [← hcd.2]
  exact hd

theorem isChain_append_of_last (hs : s.IsChain Apart) (ht : t.IsChain Apart)
    (h : s.getLast? ≠ some '*') : (s ++ t).IsChain Apart := by
  refine hs.append ht fun c hc d _ hcd => h ?_
  rw [← hcd.1]
  exact hc

theorem exists_guardCommentEnd (c : Char) (r : List Char) :
    ∃ r', guardCommentEnd (c :: r) = c :: r' := by
  unfold guardCommentEnd
  cases r with
  | nil => exact ⟨[], rfl⟩
  | cons d r =>
    unfold replacePair
    split
    · next h =>
      obtain ⟨rfl, -⟩ : c = '*' ∧ d = '/' := by simpa using h
      exact ⟨_, rfl⟩
    · exact ⟨_, rfl⟩

/-- Breaking up the pairs of a text makes no new ones. -/
theorem isChain_guardCommentEnd (s : List Char) : (guardCommentEnd s).IsChain Apart := by
  unfold guardCommentEnd
  fun_induction replacePair '*' '/' ['*', '\\', '/'] s with
  | case1 => exact .nil
  | case2 c => exact .singleton c
  | case3 c d r h ih =>
    have hguard : ['*', '\\', '/'].IsChain Apart := by simp [Apart]
    exact isChain_append_of_last hguard ih (by decide)
  | case4 c d r h ih =>
    obtain ⟨r', hr⟩ := exists_guardCommentEnd d r
    rw [guardCommentEnd] at hr
    rw [hr] at ih ⊢
    refine List.isChain_cons_cons.2 ⟨fun hcd => h ?_, ih⟩
    simpa using hcd

theorem isChain_of_mem_docLines {line : List Char} (hs : s.IsChain Apart)
    (h : line ∈ docLines s) : line.IsChain Apart := by
  obtain ⟨piece, hpiece, rfl⟩ := List.mem_map.1 h
  have hpart : piece.IsChain Apart := List.IsChain.infix hs (infix_of_mem_splitWhere hpiece)
  exact List.IsChain.prefix hpart (isPrefix_trimEnd piece)

theorem newline_not_mem_docLines {line : List Char} (h : line ∈ docLines s) : '\n' ∉ line := by
  obtain ⟨piece, hpiece, rfl⟩ := List.mem_map.1 h
  intro hmem
  have hfalse := not_mem_of_mem_splitWhere hpiece '\n' ((isPrefix_trimEnd piece).subset hmem)
  contradiction

end Apart

/-- The one line of a text that does not start with a blank is not empty. -/
theorem ne_nil_of_docLines {c : Char} {r line : List Char} (hc : isBlank c = false)
    (h : docLines (c :: r) = [line]) : line ≠ [] := by
  obtain ⟨piece, hpiece, rfl⟩ := List.map_eq_singleton_iff.1 h
  have hwhole : piece = c :: r := by
    have hjoin := joinWith_splitOnChar '\n' (c :: r)
    rwa [hpiece] at hjoin
  have hend : trimEnd (c :: r) = c :: trimEnd r := trimEnd_append hc [] r
  rw [hwhole, hend]
  exact List.cons_ne_nil c _

section Comments

variable {s : List Char}

/-- What follows the comment that a text starts with, blanks in front of it aside. -/
def afterComment? (s : List Char) : Option (List Char) :=
  (after? ['/', '*'] (trimStart s)).bind fun r => (cutAround? ['*', '/'] r).map Prod.snd

/-- The lines of a text that ends with a line, without the first and the last of them. -/
def innerLines (s : List Char) : List (List Char) := (splitOnChar '\n' s).tail.dropLast.dropLast

/-- A comment of its own on one line or more, which ends nowhere before its end. -/
structure IsDocComment (block : List Char) : Prop where
  starts : "  /**".toList <+: block
  ends : "*/\n".toList <:+ block
  once : ∀ before after, block = before ++ "*/".toList ++ after → after = ['\n']
  passed : ∀ rest, afterComment? (block ++ rest) = some ('\n' :: rest)
  starred : ∀ line ∈ innerLines block, "   *".toList <+: line

theorem cutAround?_of_isChain (h : (s ++ ['*']).IsChain Apart) (r : List Char) :
    cutAround? ['*', '/'] (s ++ '*' :: '/' :: r) = some (s, r) := by
  induction s with
  | nil => rfl
  | cons c s ih =>
    obtain ⟨d, t, ht⟩ : ∃ d t, s ++ ['*'] = d :: t := List.exists_cons_of_ne_nil (by simp)
    have htext : s ++ '*' :: '/' :: r = d :: (t ++ '/' :: r) := by
      have happend : s ++ '*' :: '/' :: r = (s ++ ['*']) ++ '/' :: r := by simp
      rw [happend, ht, List.cons_append]
    rw [List.cons_append, ht] at h
    obtain ⟨hcd, htail⟩ := List.isChain_cons_cons.1 h
    have hnone : after? ['*', '/'] (c :: (s ++ '*' :: '/' :: r)) = none := by
      rw [htext, after?, if_neg]
      intro hpair
      have heq : '*' = c ∧ '/' = d := by simpa using hpair
      exact hcd ⟨heq.1.symm, heq.2.symm⟩
    rw [← ht] at htail
    rw [List.cons_append, cutAround?, hnone, ih htail]
    rfl

/-- What stands between the marks of a comment, with the marks. -/
def commentText (s : List Char) : List Char := "  /**".toList ++ (s ++ "*/\n".toList)

/-- A text without a star and a slash together in it stays in its comment. -/
theorem isDocComment_commentText (h : ('*' :: (s ++ ['*'])).IsChain Apart)
    (hlines : ∀ line ∈ innerLines (commentText s), "   *".toList <+: line) :
    IsDocComment (commentText s) where
  starts := ⟨s ++ "*/\n".toList, rfl⟩
  ends := ⟨"  /**".toList ++ s, List.append_assoc ..⟩
  once before after heq := by
    have hopen : "  /*".toList.IsChain Apart := by simp [Apart]
    have hbody : ("  /*".toList ++ '*' :: (s ++ ['*'])).IsChain Apart :=
      isChain_append_of_head hopen h (by simp)
    have hend : ['/', '\n'].IsChain Apart := by simp [Apart]
    have hcut : "  /**".toList ++ s ++ '*' :: '/' :: ['\n'] = before ++ '*' :: '/' :: after := by
      rw [commentText, ← List.append_assoc, List.append_assoc before] at heq
      exact heq
    exact (eq_of_broken_chain hbody hend (fun hpair => hpair ⟨rfl, rfl⟩) hcut).2
  passed rest := by
    have hopen : after? ['/', '*'] (trimStart (commentText s ++ rest)) =
        some ('*' :: s ++ '*' :: '/' :: '\n' :: rest) := by
      have htext : commentText s ++ rest =
          "  /*".toList ++ ('*' :: s ++ '*' :: '/' :: '\n' :: rest) := by simp [commentText]
      rw [htext]
      rfl
    rw [afterComment?, hopen, Option.bind_some, cutAround?_of_isChain h]
    rfl
  starred := hlines

/-- A line of a comment without its end. -/
def starredLine (line : List Char) : List Char :=
  if line.isEmpty then "   *".toList else "   * ".toList ++ line

theorem docLine_eq (line : List Char) : docLine line = starredLine line ++ ['\n'] := by
  unfold docLine starredLine
  split
  · rfl
  · rfl

theorem isChain_docLine {line : List Char} (h : line.IsChain Apart) :
    (docLine line).IsChain Apart := by
  have hstar : "   *\n".toList.IsChain Apart := by simp [Apart]
  have hlead : "   * ".toList.IsChain Apart := by simp [Apart]
  unfold docLine
  split
  · exact hstar
  · have hline := isChain_append_of_last hlead h (by decide)
    exact isChain_append_of_head hline (.singleton _) (by decide)

theorem isChain_flatMap_docLine {lines : List (List Char)}
    (h : ∀ line ∈ lines, line.IsChain Apart) : (lines.flatMap docLine).IsChain Apart := by
  induction lines with
  | nil => exact .nil
  | cons line lines ih =>
    rw [List.forall_mem_cons] at h
    refine isChain_append_of_last (isChain_docLine h.1) (ih h.2) ?_
    rw [docLine_eq, List.getLast?_concat]
    decide

theorem star_prefix_starredLine (line : List Char) : "   *".toList <+: starredLine line := by
  unfold starredLine
  split
  · exact List.prefix_rfl
  · exact ⟨' ' :: line, rfl⟩

theorem newline_not_mem_starredLine {line : List Char} (h : '\n' ∉ line) :
    '\n' ∉ starredLine line := by
  unfold starredLine
  split
  · decide
  · simpa using h

theorem isDocComment_line {line : List Char} (h : line.IsChain Apart) (hend : '\n' ∉ line) :
    IsDocComment ("  /** ".toList ++ line ++ " */\n".toList) := by
  have htext : "  /** ".toList ++ line ++ " */\n".toList =
      commentText (' ' :: (line ++ [' '])) := by simp [commentText]
  have hinner : innerLines ("  /** ".toList ++ line ++ " */\n".toList) = [] := by
    have hone : "  /** ".toList ++ line ++ " */\n".toList =
        linesText ["  /** ".toList ++ line ++ " */".toList] := by simp [linesText]
    rw [innerLines, hone, splitOnChar_linesText]
    · rfl
    · simpa using hend
  rw [htext] at hinner ⊢
  refine isDocComment_commentText ?_ (by simp [hinner])
  have hlead : ['*', ' '].IsChain Apart := by simp [Apart]
  have htail : [' ', '*'].IsChain Apart := by simp [Apart]
  have hline := isChain_append_of_last hlead h (by decide)
  simpa using isChain_append_of_head hline htail (by decide)

theorem isDocComment_lines {lines : List (List Char)} (h : ∀ line ∈ lines, line.IsChain Apart)
    (hend : ∀ line ∈ lines, '\n' ∉ line) :
    IsDocComment ("  /**\n".toList ++ lines.flatMap docLine ++ "   */\n".toList) := by
  have htext : "  /**\n".toList ++ lines.flatMap docLine ++ "   */\n".toList =
      commentText ('\n' :: (lines.flatMap docLine ++ "   ".toList)) := by simp [commentText]
  have hinner : innerLines ("  /**\n".toList ++ lines.flatMap docLine ++ "   */\n".toList) =
      lines.map starredLine := by
    have hlines : "  /**\n".toList ++ lines.flatMap docLine ++ "   */\n".toList =
        linesText ("  /**".toList :: (lines.map starredLine ++ ["   */".toList])) := by
      simp [linesText, funext docLine_eq, List.flatMap_map]
    rw [innerLines, hlines, splitOnChar_linesText]
    · simp
    · rw [List.forall_mem_cons, List.forall_mem_append, List.forall_mem_map,
        List.forall_mem_singleton]
      exact ⟨by decide, fun line hline => newline_not_mem_starredLine (hend line hline), by decide⟩
  rw [htext] at hinner ⊢
  refine isDocComment_commentText ?_ ?_
  · have hlead : ['*', '\n'].IsChain Apart := by simp [Apart]
    have htail : "   *".toList.IsChain Apart := by simp [Apart]
    have hbody := isChain_append_of_last hlead (isChain_flatMap_docLine h) (by decide)
    simpa using isChain_append_of_head hbody htail (by decide)
  · rw [hinner]
    exact List.forall_mem_map.2 fun line _ => star_prefix_starredLine line

/-- A description is written as nothing if it is blank, and else as one comment: it ends at its end
and nowhere before, whatever follows it is read after it, and a star leads each of its lines. -/
theorem docComment_contained (description : List Char) :
    (allBlank description = true ∧ docComment description = []) ∨
      (allBlank description = false ∧ IsDocComment (docComment description)) := by
  by_cases htrim : trim description = []
  · exact .inl ⟨trim_eq_nil_iff.1 htrim, by rw [docComment, htrim]; rfl⟩
  have hblank : allBlank description = false := by
    rw [← Bool.not_eq_true, ← trim_eq_nil_iff]
    exact htrim
  refine .inr ⟨hblank, ?_⟩
  obtain ⟨c, r, htext, hc⟩ := exists_of_trim_ne_nil htrim
  obtain ⟨r', hguard⟩ := exists_guardCommentEnd c r
  have hchain := isChain_guardCommentEnd (c :: r)
  rw [hguard] at hchain
  have hapart : ∀ line ∈ docLines (c :: r'), line.IsChain Apart :=
    fun _ hline => isChain_of_mem_docLines hchain hline
  have hends : ∀ line ∈ docLines (c :: r'), '\n' ∉ line :=
    fun _ hline => newline_not_mem_docLines hline
  rw [docComment, htext, hguard]
  split
  · next hnil => exact absurd (List.map_eq_nil_iff.1 hnil) (splitWhere_ne_nil _ _)
  · next line hline =>
    have hne := ne_nil_of_docLines hc hline
    rw [hline, List.forall_mem_singleton] at hapart hends
    rw [if_neg (by simpa using hne)]
    exact isDocComment_line hapart hends
  · exact isDocComment_lines hapart hends

end Comments

section Heading

/-- The characters that end a line of source text, and a line comment with it. -/
def endsLine (c : Char) : Bool := c == '\n' || c == '\r' || c == '\u2028' || c == '\u2029'

/-- Two lines that are comments, and an empty one. -/
def IsHeading (s : List Char) : Prop :=
  ∃ first second, splitWhere endsLine s = [first, second, [], []] ∧
    "//".toList <+: first ∧ "//".toList <+: second

def isCode (line : List Char) : Bool := !("//".toList.isPrefixOf line)

/-- The lines of a text that are not comments. -/
def codeLines (s : List Char) : List (List Char) := (splitWhere endsLine s).filter isCode

def sourceComment (m : TableModel) : String :=
  "// Source: " ++ m.schemaName ++ "." ++ m.tableName ++ " (" ++ m.kind.word ++ ")"

/-- The lines that the names in a heading add to it. -/
def strayLines (m : TableModel) : List (List Char) :=
  (splitWhere endsLine (sourceComment m).toList).tail

/-- The names of a model that its heading holds. -/
def headingNames (m : TableModel) : List Char := m.schemaName.toList ++ m.tableName.toList

theorem toList_sourceComment (m : TableModel) : (sourceComment m).toList =
    "// Source: ".toList ++ m.schemaName.toList ++ ['.'] ++ m.tableName.toList ++ [' ', '('] ++
      m.kind.word.toList ++ [')'] := by
  simp [sourceComment]

theorem exists_splitWhere_sourceComment (m : TableModel) : ∃ first,
    splitWhere endsLine (sourceComment m).toList = first :: strayLines m ∧
      "//".toList <+: first := by
  obtain ⟨r, hr⟩ : ∃ r, (sourceComment m).toList = '/' :: '/' :: r := by
    rw [toList_sourceComment]
    exact ⟨_, rfl⟩
  obtain ⟨piece, pieces, hpieces⟩ := List.exists_cons_of_ne_nil (splitWhere_ne_nil endsLine r)
  have hsplit : splitWhere endsLine (sourceComment m).toList = ('/' :: '/' :: piece) :: pieces := by
    have hslash : endsLine '/' = false := by decide
    rw [hr, splitWhere, splitWhere, hslash, hpieces]
    rfl
  refine ⟨'/' :: '/' :: piece, ?_, ⟨piece, rfl⟩⟩
  rw [strayLines, hsplit, List.tail_cons]

/-- The lines of a heading, with whatever follows it. -/
theorem exists_splitWhere_preamble (m : TableModel) (rest : List Char) : ∃ first,
    splitWhere endsLine ((preamble m).toList ++ rest) =
      header.toList :: first :: (strayLines m ++ [] :: splitWhere endsLine rest) ∧
    "//".toList <+: first := by
  obtain ⟨first, hsource, hfirst⟩ := exists_splitWhere_sourceComment m
  refine ⟨first, ?_, hfirst⟩
  have htext : (preamble m).toList ++ rest =
      header.toList ++ '\n' :: ((sourceComment m).toList ++ '\n' :: ([] ++ '\n' :: rest)) := by
    simp [preamble, sourceComment]
  have hheader : ∀ c ∈ header.toList, endsLine c = false := forall_mem_of_all (by decide)
  have hend : endsLine '\n' = true := by decide
  rw [htext, splitWhere_append_cons hend, splitWhere_append_cons hend,
    splitWhere_append_cons hend, splitWhere_of_none hheader, hsource]
  rfl

theorem codeLines_preamble (m : TableModel) (rest : List Char) :
    codeLines ((preamble m).toList ++ rest) =
      (strayLines m).filter isCode ++ [] :: codeLines rest := by
  obtain ⟨first, hlines, hfirst⟩ := exists_splitWhere_preamble m rest
  have hheader : isCode header.toList = false := by decide
  have hcomment : isCode first = false := by
    obtain ⟨r, rfl⟩ := hfirst
    rfl
  have hempty : isCode [] = true := rfl
  simp only [codeLines, hlines, List.filter_cons, List.filter_append, hheader, hcomment, hempty,
    if_true, Bool.false_eq_true, if_false]

theorem isHeading_preamble_iff (m : TableModel) :
    IsHeading (preamble m).toList ↔ strayLines m = [] := by
  obtain ⟨first, hlines, hfirst⟩ := exists_splitWhere_preamble m []
  rw [List.append_nil] at hlines
  rw [IsHeading, hlines]
  constructor
  · rintro ⟨_, _, hall, -, -⟩
    have hlength := congrArg List.length hall
    exact List.length_eq_zero_iff.1 (by simpa [splitWhere] using hlength)
  · intro hnone
    exact ⟨header.toList, first, by rw [hnone]; rfl, by decide, hfirst⟩

theorem endsLine_sourceComment_iff (m : TableModel) :
    (∀ c ∈ (sourceComment m).toList, endsLine c = false) ↔
      ∀ c ∈ headingNames m, endsLine c = false := by
  have hword : ∀ c ∈ m.kind.word.toList, endsLine c = false := by
    cases m.kind <;> exact forall_mem_of_all (by decide)
  have hlead : ∀ c ∈ "// Source: ".toList, endsLine c = false := forall_mem_of_all (by decide)
  have hmarks : ∀ c ∈ ['.'] ++ [' ', '('] ++ [')'], endsLine c = false :=
    forall_mem_of_all (by decide)
  rw [toList_sourceComment, headingNames]
  simp only [List.forall_mem_append] at hmarks ⊢
  constructor
  · rintro ⟨⟨⟨⟨⟨⟨-, hschema⟩, -⟩, htable⟩, -⟩, -⟩, -⟩
    exact ⟨hschema, htable⟩
  · rintro ⟨hschema, htable⟩
    exact ⟨⟨⟨⟨⟨⟨hlead, hschema⟩, hmarks.1.1⟩, htable⟩, hmarks.1.2⟩, hword⟩, hmarks.2⟩

theorem strayLines_eq_nil_iff (m : TableModel) :
    strayLines m = [] ↔ ∀ c ∈ headingNames m, endsLine c = false := by
  have hlength : (strayLines m).length = (sourceComment m).toList.countP endsLine := by
    rw [strayLines, List.length_tail, length_splitWhere, Nat.add_sub_cancel]
  rw [← List.length_eq_zero_iff, hlength, List.countP_eq_zero, ← endsLine_sourceComment_iff]
  simp only [Bool.not_eq_true]

end Heading

end ModuleText

open ModuleText

/-- What a module has in front of its import is a heading of two comments exactly if no character
of the names in it ends a line. In general the lines that a name adds are read as code, those apart
that are comments again. -/
theorem TableModel.emit_heading_iff (d : Dialect) (m : TableModel) :
    (m.emit d.profile).content = preamble m ++ d.profile.importLine ++ "\n" ++
        statementText (statements d.profile m) ∧
      (IsHeading (preamble m).toList ↔ ∀ c ∈ headingNames m, endsLine c = false) ∧
      ∀ rest, codeLines ((preamble m).toList ++ rest) =
        (strayLines m).filter isCode ++ [] :: codeLines rest := by
  refine ⟨content_eq d.profile m, ?_, codeLines_preamble m⟩
  rw [isHeading_preamble_iff, strayLines_eq_nil_iff]

/-- A table may have a name of two lines, and the second of them is code. -/
theorem ModelBuilder.build_heading_left :
    let b : ModelBuilder := ⟨{}, Dialect.default.profile, {}, none⟩
    let raw : RawColumn :=
      ⟨"id", "users", .table, "public", "int4", false, none, none, none, [], [], 1⟩
    let t : Table := ⟨"public", "users\nalert(1)", .table, [raw.describe]⟩
    ∃ m, (b.build {} t).outcome = .ok m ∧ ¬IsHeading (preamble m).toList ∧
      preamble m = header ++ "\n// Source: public.users\nalert(1) (table)\n\n" ∧
      codeLines (preamble m).toList = ["alert(1) (table)".toList, [], []] := by
  intro b raw t
  suffices hleft : ¬IsHeading (preamble (b.plainModel t)).toList ∧
      preamble (b.plainModel t) = header ++ "\n// Source: public.users\nalert(1) (table)\n\n" ∧
      codeLines (preamble (b.plainModel t)).toList = ["alert(1) (table)".toList, [], []] from
    ⟨b.plainModel t, b.build_outcome t, hleft⟩
  have hnewline : '\n' ∈ headingNames (b.plainModel t) := by decide +kernel
  have hnames : ¬∀ c ∈ headingNames (b.plainModel t), endsLine c = false :=
    fun hall => absurd (hall '\n' hnewline) (by decide)
  refine ⟨?_, by decide +kernel, by decide +kernel⟩
  rwa [isHeading_preamble_iff, strayLines_eq_nil_iff]

end ZodCatalog
