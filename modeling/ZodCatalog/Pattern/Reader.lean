import ZodCatalog.Pattern.Automaton
import ZodCatalog.Pattern.Fault
import ZodCatalog.Pattern.Named
import ZodCatalog.Text.Blank
import ZodCatalog.Text.Split

/-!
Reading patterns. A text that is no pattern is refused, and so is one that nests too deep or
expands too far.
-/

namespace ZodCatalog.Pattern

open Text

/-- What flag settings in a pattern change. -/
structure Flags where
  ignoreCase : Bool := false
  multiLine : Bool := false
  dotAll : Bool := false
  crlf : Bool := false
  /-- Blanks and comments are skipped. -/
  verbose : Bool := false
  unicode : Bool := true
deriving Repr, DecidableEq

namespace Flags

def set? (f : Flags) (letter : Char) (value : Bool) : Option Flags :=
  match letter with
  | 'i' => some { f with ignoreCase := value }
  | 'm' => some { f with multiLine := value }
  | 's' => some { f with dotAll := value }
  | 'R' => some { f with crlf := value }
  | 'x' => some { f with verbose := value }
  | 'u' => some { f with unicode := value }
  | 'U' => some f
  | _ => none

def fold (f : Flags) (s : CharSet) : CharSet :=
  if f.ignoreCase then (if f.unicode then .folded s else .inter (.folded s) .ascii) else s

end Flags

/-- The text after blanks and comments, where these are skipped. -/
def skipSpace (f : Flags) (s : List Char) : List Char :=
  if f.verbose then go s s.length else s
where
  go (s : List Char) : Nat → List Char
    | 0 => s
    | n + 1 =>
      match trimStart s with
      | '#' :: r => go (r.dropWhile (· != '\n')) n
      | r => r

/-- The flags of a group up to the character that ends them. -/
def readFlags (f : Flags) (seen : List Char) (negated dangling : Bool) :
    List Char → Option (Flags × Char × List Char)
  | [] => none
  | c :: r =>
    if c = ':' || c = ')' then
      if dangling || (c = ')' && seen.isEmpty) then none else some (f, c, r)
    else if c = '-' then if negated then none else readFlags f ('-' :: seen) true true r
    else if seen.contains c then none
    else do
      let f ← f.set? c (!negated)
      readFlags f (c :: seen) negated false r

def isNameStart (c : Char) : Bool := c == '_' || isAlphabetic c

def isNamePart (c : Char) : Bool :=
  c == '_' || c == '.' || c == '[' || c == ']' || isAlphanumeric c

/-- The name of a group up to its closing bracket. -/
def readName (s : List Char) : Option (List Char × List Char) := do
  let (name, r) ← cutFirst (· == '>') s
  match name with
  | [] => none
  | c :: cs => if isNameStart c && cs.all isNamePart then some (name, r) else none

def hexValue? (c : Char) : Option Nat :=
  let n := c.toNat
  if c.isDigit then some (n - 48)
  else if 97 ≤ n && n ≤ 102 then some (n - 87)
  else if 65 ≤ n && n ≤ 70 then some (n - 55)
  else none

/-- The character with a code in hexadecimal digits, if there is one. -/
def hexChar? (digits : List Char) : Option Char := do
  if digits.isEmpty then none
  else
    let values ← digits.mapM hexValue?
    let n := values.foldl (fun n d => 16 * n + d) 0
    if n.isValidChar then some (Char.ofNat n) else none

/-- A given number of characters, with blanks and comments between them skipped. -/
def takeSpaced (f : Flags) : Nat → List Char → Option (List Char × List Char)
  | 0, s => some ([], s)
  | n + 1, s =>
    match skipSpace f s with
    | [] => none
    | c :: r => do
      let (cs, r) ← takeSpaced f n r
      return (c :: cs, r)

/-- The characters as long as they pass a test, with blanks and comments between them skipped. -/
def takeSpacedWhile (f : Flags) (p : Char → Bool) (s : List Char) : List Char × List Char :=
  go s s.length
where
  go (s : List Char) : Nat → List Char × List Char
    | 0 => ([], s)
    | n + 1 =>
      match s with
      | [] => ([], [])
      | c :: r =>
        if p c then
          let (cs, r) := go (skipSpace f r) n
          (c :: cs, r)
        else ([], s)

/-- What stands between braces, behind the opening one. -/
def readBraced (f : Flags) (s : List Char) : Option (List Char × List Char) :=
  match takeSpacedWhile f (· != '\x7d') (skipSpace f s) with
  | (content, _ :: r) => some (content, r)
  | (_, []) => none

/-- What an escape stands for. -/
inductive Escape
  | literal (c : Char)
  /-- A byte above ASCII, which is no character of its own. -/
  | byte
  | set (s : CharSet)
  | anchor (a : Anchor)

/--
The character of a hexadecimal escape with a fixed number of digits or in braces. Two digits
stand for a byte where characters are bytes.
-/
def readHex (f : Flags) (count : Nat) (s : List Char) : Option (Escape × List Char) :=
  match skipSpace f s with
  | '\x7b' :: r => do
    let (digits, r) ← readBraced f r
    return (.literal (← hexChar? digits), r)
  | s => do
    let (digits, r) ← takeSpaced f count s
    let c ← hexChar? digits
    return (if count = 2 && !f.unicode && !isAscii c then .byte else .literal c, r)

/-- The set of a property by what stands between its braces; `!=` asks for all but a value. -/
def propertySet? (content : List Char) : Option (Bool × CharSet) :=
  match cutAround? "!=".toList content with
  | some (property, value) => (CharSet.propertyValue? property value).map (true, ·)
  | none =>
    match (cutFirst (· == ':') content).orElse fun _ => cutFirst (· == '=') content with
    | some (property, value) => (CharSet.propertyValue? property value).map (false, ·)
    | none => (CharSet.propertyNamed? content).map (false, ·)

/-- The set of a property given by one letter or in braces, and whether all others are meant. -/
def readPropertySet (f : Flags) (s : List Char) : Option ((Bool × CharSet) × List Char) :=
  match skipSpace f s with
  | [] => none
  | '\\' :: _ => none
  | '\x7b' :: r => do
    let (content, r) ← readBraced f r
    return (← propertySet? content, r)
  | c :: r => do return ((false, ← CharSet.propertyNamed? [c]), r)

/-- The property class behind its letter. -/
def readProperty (f : Flags) (negated : Bool) (s : List Char) : Option (Escape × List Char) := do
  let ((inverse, set), r) ← readPropertySet f s
  if f.unicode then
    let set := f.fold set
    return (.set (if negated != inverse then .complement set else set), r)
  else none

/-- A named class with its negation; classes of single bytes cannot be negated. -/
def perlClass (f : Flags) (negated : Bool) (wide narrow : CharSet) : Option CharSet :=
  if f.unicode then some (if negated then .complement wide else wide)
  else if negated then none else some narrow

def isBoundaryNamePart (c : Char) : Bool := c.isAlpha || c == '-'

/-- A word boundary, which may be narrowed by a name in braces. -/
def readBoundary (f : Flags) (s : List Char) : Option (Anchor × List Char) :=
  let ascii := !f.unicode
  match s with
  | '\x7b' :: r =>
    match takeSpacedWhile f isBoundaryNamePart (skipSpace f r) with
    | ([], []) => none
    | ([], _) => some (.wordBoundary ascii, s)
    | (name, '\x7d' :: r) =>
      match String.ofList name with
      | "start" => some (.wordStart ascii, r)
      | "end" => some (.wordEnd ascii, r)
      | "start-half" => some (.beforeWord ascii, r)
      | "end-half" => some (.afterWord ascii, r)
      | _ => none
    | _ => none
  | _ => some (.wordBoundary ascii, s)

def isMeta (c : Char) : Bool := "\\.+*?()|[]\x7b\x7d^$#&-~".toList.contains c

/-- Characters that stand for themselves behind a backslash. -/
def isEscapable (c : Char) : Bool :=
  isMeta c || (isAscii c && !c.isAlphanum && c != '<' && c != '>')

/-- What follows a backslash. -/
def readEscape (f : Flags) : List Char → Option (Escape × List Char)
  | [] => none
  | c :: r =>
    let class? (negated : Bool) (wide narrow : CharSet) : Option (Escape × List Char) := do
      return (.set (← perlClass f negated wide narrow), r)
    match c with
    | 'x' => readHex f 2 r
    | 'u' => readHex f 4 r
    | 'U' => readHex f 8 r
    | 'p' => readProperty f false r
    | 'P' => readProperty f true r
    | 'd' => class? false Property.digit .asciiDigit
    | 'D' => class? true Property.digit .asciiDigit
    | 's' => class? false Property.blank .asciiBlank
    | 'S' => class? true Property.blank .asciiBlank
    | 'w' => class? false Property.word .asciiWord
    | 'W' => class? true Property.word .asciiWord
    | 'a' => some (.literal '\x07', r)
    | 'f' => some (.literal '\x0c', r)
    | 't' => some (.literal '\t', r)
    | 'n' => some (.literal '\n', r)
    | 'r' => some (.literal '\r', r)
    | 'v' => some (.literal '\x0b', r)
    | 'A' => some (.anchor .textStart, r)
    | 'z' => some (.anchor .textEnd, r)
    | 'B' => some (.anchor (.notWordBoundary (!f.unicode)), r)
    | '<' => some (.anchor (.wordStart (!f.unicode)), r)
    | '>' => some (.anchor (.wordEnd (!f.unicode)), r)
    | 'b' => do
      let (a, r) ← readBoundary f r
      return (.anchor a, r)
    | _ => if isEscapable c then some (.literal c, r) else none

/-! Bracketed classes. -/

/-- Operations between the parts of a bracketed class. -/
inductive ClassOp
  | inter
  | diff
  | symmDiff

def ClassOp.apply : ClassOp → CharSet → CharSet → CharSet
  | inter, s, t => .inter s t
  | diff, s, t => s.diff t
  | symmDiff, s, t => s.symmDiff t

/-- A part of a bracketed class that may be the end of a range if it is a character. -/
def readClassAtom (f : Flags) : List Char → Option ((Char ⊕ CharSet) × List Char)
  | [] => none
  | '\\' :: r => do
    let (e, r) ← readEscape f r
    match e with
    | .literal c => return (.inl c, r)
    | .set s => return (.inr s, r)
    | .byte => none
    | .anchor _ => none
  | c :: r => some (.inl c, r)

/-- Single bytes stand for ASCII characters only. -/
def classChar? (f : Flags) (c : Char) : Option CharSet :=
  if f.unicode || isAscii c then some (.single c) else none

/-- The next character that is no blank, a comment's mark and the blanks behind it passed over. -/
def peekSpaced (f : Flags) (s : List Char) : Option Char :=
  if f.verbose then
    let next := match trimStart s with
      | '#' :: r => trimStart r
      | r => r
    (next.head?).orElse fun _ => s.head?
  else s.head?

/-- A character, a range of characters or an escaped class. -/
def readClassRange (f : Flags) (s : List Char) : Option (CharSet × List Char) := do
  let (atom, r) ← readClassAtom f s
  let r := skipSpace f r
  let isRange := match r with
    | '-' :: t => peekSpaced f t != some ']' && peekSpaced f t != some '-'
    | _ => false
  match atom with
  | .inr set => if isRange then none else some (set, r)
  | .inl first =>
    if isRange then do
      let (atom, r) ← readClassAtom f (skipSpace f r.tail)
      match atom with
      | .inr _ => none
      | .inl last =>
        let _ ← classChar? f first
        let _ ← classChar? f last
        if last.toNat < first.toNat then none
        else some (.range first.toNat last.toNat, r)
    else return (← classChar? f first, r)

/-- A set up to case, with its negation; sets of single bytes hold ASCII characters only. -/
def foldAndNegate (f : Flags) (negated : Bool) (set : CharSet) : Option CharSet :=
  let set := f.fold set
  let set := if negated then CharSet.complement set else set
  if f.unicode || set.isAsciiOnly then some set else none

/-- The name of a class of ASCII characters, such as `[:alpha:]`, behind its opening bracket. -/
def readAsciiClass (s : List Char) : Option (Bool × CharSet × List Char) :=
  match s with
  | ':' :: r => do
    let (negated, r) := match r with
      | '^' :: t => (true, t)
      | _ => (false, r)
    let (name, r) ← cutFirst (· == ':') r
    match r with
    | ']' :: r => return (negated, ← CharSet.asciiClasses.lookup (String.ofList name), r)
    | _ => none
  | _ => none

/-- A set and how deep its description nests. -/
structure ClassItem where
  set : CharSet
  depth : Nat

/-- The class put together so far: an operation with its left side, and the parts after it. -/
structure ClassState where
  left : Option (ClassOp × ClassItem) := none
  parts : List ClassItem := []

namespace ClassState

def add (st : ClassState) (s : CharSet) (depth : Nat) : ClassState :=
  { st with parts := st.parts ++ [⟨s, depth⟩] }

/-- The parts together; several of them are a level of their own. -/
def right (st : ClassState) : ClassItem :=
  ⟨CharSet.unions (st.parts.map ClassItem.set),
    st.parts.foldl (fun n p => max n p.depth) 0 + if st.parts.length > 1 then 1 else 0⟩

/-- The set of what was read. -/
def close (f : Flags) (st : ClassState) : ClassItem :=
  match st.left with
  | none => st.right
  | some (op, left) =>
    ⟨op.apply (f.fold left.set) (f.fold st.right.set), max left.depth st.right.depth + 1⟩

def operate (f : Flags) (op : ClassOp) (st : ClassState) : ClassState :=
  { left := some (op, st.close f), parts := [] }

end ClassState

/-- Hyphens at the start of a class, and a bracket there, stand for themselves. -/
def readClassStart (f : Flags) (st : ClassState) : Nat → List Char → ClassState × List Char
  | 0, s => (st, s)
  | n + 1, s =>
    match s with
    | '-' :: r => readClassStart f (st.add (.single '-') 0) n (skipSpace f r)
    | ']' :: r => if st.parts.isEmpty then (st.add (.single ']') 0, skipSpace f r) else (st, s)
    | _ => (st, s)

/-- The rest of a class behind its opening bracket and its negation. -/
def readClass (f : Flags) (negated : Bool) (st : ClassState) :
    Nat → List Char → Option (ClassItem × List Char)
  | 0, _ => none
  | n + 1, s =>
    match skipSpace f s with
    | [] => none
    | ']' :: r => do
      let item := st.close f
      return (⟨← foldAndNegate f negated item.set, item.depth + 1⟩, r)
    | '[' :: r =>
      match readAsciiClass r with
      | some (inverse, set, r) => do
        readClass f negated (st.add (← foldAndNegate f inverse set) 0) n r
      | none => do
        let r := skipSpace f r
        let (inverse, r) := match r with
          | '^' :: t => (true, skipSpace f t)
          | _ => (false, r)
        let (inside, r) := readClassStart f {} r.length r
        let (item, r) ← readClass f inverse inside n r
        readClass f negated (st.add item.set item.depth) n r
    | '&' :: '&' :: r => readClass f negated (st.operate f .inter) n r
    | '-' :: '-' :: r => readClass f negated (st.operate f .diff) n r
    | '~' :: '~' :: r => readClass f negated (st.operate f .symmDiff) n r
    | s => do
      let (set, r) ← readClassRange f s
      readClass f negated (st.add set 0) n r

/-- A bracketed class behind its opening bracket. -/
def readBracketed (f : Flags) (s : List Char) : Option (ClassItem × List Char) :=
  let s := skipSpace f s
  let (negated, s) := match s with
    | '^' :: t => (true, skipSpace f t)
    | _ => (false, s)
  let (st, s) := readClassStart f {} s.length s
  readClass f negated st (2 * s.length + 2) s

/-! Repetitions. -/

/-- A decimal number with blanks around it that fits 32 bits. -/
def readCount (f : Flags) (s : List Char) : Option (Nat × List Char) :=
  let (digits, r) := takeSpacedWhile f Char.isDigit (trimStart s)
  let n := digits.foldl (fun n c => 10 * n + (c.toNat - 48)) 0
  if digits.isEmpty || n ≥ 4294967296 then none else some (n, skipSpace f (trimStart r))

/-- The upper bound behind the lower one, which stands for both if there is no comma. -/
def readMost (f : Flags) (least : Nat) : List Char → Option (Option Nat × List Char)
  | ',' :: r =>
    match skipSpace f r with
    | '\x7d' :: t => some (none, '\x7d' :: t)
    | r => do
      let (n, r) ← readCount f r
      return (some n, r)
  | r => some (some least, r)

/-- The bounds of a counted repetition behind the opening brace. -/
def readBounds (f : Flags) (s : List Char) : Option (Nat × Option Nat × List Char) := do
  let (least, r) ← readCount f (skipSpace f s)
  let (most, r) ← readMost f least r
  match r with
  | '\x7d' :: r =>
    if (most.map (decide <| least ≤ ·)).getD true then some (least, most, r) else none
  | _ => none

/-- Whether the shortest match is wanted does not change what matches. -/
def skipLazy : List Char → List Char
  | '?' :: r => r
  | r => r

/-! Whole patterns. -/

/-- A pattern and how deep it nests. -/
structure Piece where
  pattern : Pattern
  depth : Nat

/-- The alternatives read so far in a group. A flag setting is an item without a piece. -/
structure Group where
  flags : Flags
  /-- Whether it keeps what it matched. -/
  keeps : Bool := false
  items : List (Option Piece) := []
  branches : List Piece := []

namespace Group

def add (g : Group) (p : Pattern) (depth : Nat) : Group :=
  { g with items := g.items ++ [some ⟨p, depth⟩] }

def maxDepth (ps : List Piece) : Nat := ps.foldl (fun n p => max n p.depth) 0

def branch (g : Group) : Piece :=
  let pieces := g.items.filterMap id
  ⟨sequence (pieces.map Piece.pattern),
    maxDepth pieces + if g.items.length > 1 then 1 else 0⟩

def split (g : Group) : Group := { g with items := [], branches := g.branches ++ [g.branch] }

/-- All alternatives. -/
def close (g : Group) : Piece :=
  let pieces := g.branches ++ [g.branch]
  ⟨choice (pieces.map Piece.pattern), maxDepth pieces + if pieces.length > 1 then 1 else 0⟩

def repeatLast (g : Group) (least : Nat) (most : Option Nat) : Option Group :=
  match g.items.getLast? with
  | some (some p) =>
    some { g with
      items := g.items.dropLast ++ [some ⟨.repeated p.pattern least most, p.depth + 1⟩] }
  | _ => none

end Group

structure ReaderState where
  group : Group
  outer : List Group := []
  names : List (List Char) := []

namespace ReaderState

def onGroup (st : ReaderState) (f : Group → Group) : ReaderState :=
  { st with group := f st.group }

def enter (st : ReaderState) (flags : Flags) (keeps : Bool) : ReaderState :=
  { st with group := { flags, keeps }, outer := st.group :: st.outer }

def leave (st : ReaderState) : Option ReaderState :=
  match st.outer with
  | [] => none
  | g :: gs =>
    let p := st.group.close
    some { st with group := g.add (.group st.group.keeps p.pattern) (p.depth + 1), outer := gs }

end ReaderState

/-- The start of a group behind its parenthesis. -/
def readGroupStart (st : ReaderState) (s : List Char) : Option (ReaderState × List Char) :=
  let f := st.group.flags
  let named (r : List Char) : Option (ReaderState × List Char) := do
    let (name, r) ← readName r
    if st.names.contains name then none
    else some ({ st.enter f true with names := name :: st.names }, r)
  match skipSpace f s with
  | '?' :: '=' :: _ => none
  | '?' :: '!' :: _ => none
  | '?' :: '<' :: '=' :: _ => none
  | '?' :: '<' :: '!' :: _ => none
  | '?' :: 'P' :: '<' :: r => named r
  | '?' :: '<' :: r => named r
  | '?' :: r => do
    let (flags, last, r) ← readFlags f [] false false r
    if last = ')' then
      return (st.onGroup fun g => { g with flags, items := g.items ++ [none] }, r)
    else return (st.enter flags false, r)
  | r => some (st.enter f true, r)

def dotSet (f : Flags) : CharSet :=
  if f.dotAll then .any
  else if f.crlf then .complement (.union (.single '\n') (.single '\r'))
  else .complement (.single '\n')

/-- A character that stands for itself; case is known of ASCII characters only without Unicode. -/
def literal (f : Flags) (c : Char) : Pattern :=
  .one (if f.unicode || isAscii c then f.fold (.single c) else .single c)

/-- One construct of a pattern. -/
def readStep (st : ReaderState) : List Char → Option (ReaderState × List Char)
  | [] => none
  | c :: r =>
    let g := st.group
    let f := g.flags
    let repetition (least : Nat) (most : Option Nat) (r : List Char) :
        Option (ReaderState × List Char) := do
      return ({ st with group := ← g.repeatLast least most }, skipLazy r)
    match c with
    | '(' => readGroupStart st r
    | ')' => do return (← st.leave, r)
    | '|' => some (st.onGroup Group.split, r)
    | '[' => do
      let (item, r) ← readBracketed f r
      return (st.onGroup (·.add (.one item.set) item.depth), r)
    | '?' => repetition 0 (some 1) r
    | '*' => repetition 0 none r
    | '+' => repetition 1 none r
    | '\x7b' => do
      let (least, most, r) ← readBounds f r
      repetition least most (skipSpace f r)
    | '\\' => do
      let (e, r) ← readEscape f r
      match e with
      | .literal d => return (st.onGroup (·.add (literal f d) 0), r)
      | .byte => none
      | .set s => return (st.onGroup (·.add (.one s) 0), r)
      | .anchor a => return (st.onGroup (·.add (.anchor a) 0), r)
    | '.' => if f.unicode then some (st.onGroup (·.add (.one (dotSet f)) 0), r) else none
    | '^' =>
      let a := if f.multiLine then Anchor.lineStart f.crlf else .textStart
      some (st.onGroup (·.add (.anchor a) 0), r)
    | '$' =>
      let a := if f.multiLine then Anchor.lineEnd f.crlf else .textEnd
      some (st.onGroup (·.add (.anchor a) 0), r)
    | _ => some (st.onGroup (·.add (literal f c) 0), r)

/-- Reads on to the end; each construct takes at least one character. -/
def readAll (st : ReaderState) : Nat → List Char → Option Piece
  | 0, _ => none
  | n + 1, s =>
    match skipSpace st.group.flags s with
    | [] => if st.outer.isEmpty then some st.group.close else none
    | s => do
      let (st, r) ← readStep st s
      readAll st n r

/-- How deep a pattern may nest. -/
def depthLimit : Nat := 250

def read (s : String) : Except Fault Pattern :=
  let chars := s.toList
  match readAll { group := { flags := {} } } (chars.length + 1) chars with
  | none => .error .malformed
  | some piece =>
    if depthLimit < piece.depth then .error .malformed
    else if Automaton.fits piece.pattern then .ok piece.pattern
    else .error (.tooLarge Automaton.Draft.sizeLimit)

end ZodCatalog.Pattern
