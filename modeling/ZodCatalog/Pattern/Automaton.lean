import ZodCatalog.Pattern.Plan
import Std.Data.HashMap

/-!
How much memory the automata of a pattern take: one reads texts forwards, the other backwards.
Their states are counted as they would be built, since states are shared only as far as a table
of fixed size remembers them, and building stops when the limit is passed.
-/

namespace ZodCatalog.Pattern.Automaton

open Text

/-- The states so far, and the memory of what they hold beside themselves. -/
structure Draft where
  states : Nat := 0
  held : Nat := 0
deriving Repr

namespace Draft

def stateSize : Nat := 32

/-- The size of one of several transitions of a state. -/
def transitionSize : Nat := 8

/-- The size of one alternative of a state that branches. -/
def branchSize : Nat := 4

def sizeLimit : Nat := 10485760

def size (d : Draft) : Nat := stateSize * d.states + d.held

end Draft

/-- Building fails when the limit is passed. -/
abbrev Build := StateT Draft Option

/-- A new state with what it holds; the answer is its number. -/
def add (held : Nat) : Build Nat := fun d =>
  let next : Draft := { states := d.states + 1, held := d.held + held }
  if next.size ≤ Draft.sizeLimit then some (d.states, next) else none

/-- Another alternative of an earlier state. -/
def addBranch : Build Unit := fun d =>
  let next := { d with held := d.held + Draft.branchSize }
  if next.size ≤ Draft.sizeLimit then some ((), next) else none

def addPlain : Build Unit := discard (add 0)

def addEdges (count : Nat) : Build Unit := discard (add (Draft.transitionSize * count))

def addUnion (branches : Nat) : Build Unit := discard (add (Draft.branchSize * branches))

def times (n : Nat) (b : Build Unit) : Build Unit :=
  match n with
  | 0 => pure ()
  | n + 1 => do
    b
    times n b

/-! Characters as bytes. -/

/-- A range of bytes. -/
abbrev ByteRange := Nat × Nat

/-- Where a range of characters has to be cut so that its ends differ in whole bytes only. -/
def cut? (first last : Nat) : Option Nat :=
  match [0x7F, 0x7FF, 0xFFFF].find? fun m => first ≤ m && m < last with
  | some m => some m
  | none =>
    if last ≤ 0x7F then none
    else
      [64, 4096, 262144].findSome? fun block =>
        if first / block = last / block then none
        else if first % block ≠ 0 then some (first / block * block + block - 1)
        else if last % block ≠ block - 1 then some (last / block * block - 1)
        else none

/-- A range of characters as ranges of which each is one sequence of ranges of bytes. -/
def blocks : Nat → Nat → Nat → List (Nat × Nat)
  | 0, _, _ => []
  | n + 1, first, last =>
    match cut? first last with
    | some m => blocks n first m ++ blocks n (m + 1) last
    | none => [(first, last)]

def byteRanges (first last : Nat) : List ByteRange :=
  (Utf8.encodeChar (Char.ofNat first)).zip (Utf8.encodeChar (Char.ofNat last))

/-- The sequences of ranges of bytes of a set of characters, in order. -/
def byteSequences (runs : List (Nat × Nat)) : List (List ByteRange) :=
  runs.flatMap fun (first, last) => (blocks 24 first last).map fun (a, b) => byteRanges a b

/-- Neighbouring sequences that start with the same range, put together. -/
def groupHeads : List (List ByteRange) → List (ByteRange × List (List ByteRange))
  | [] => []
  | [] :: rest => groupHeads rest
  | (r :: tail) :: rest =>
    match groupHeads rest with
    | (q, tails) :: groups =>
      if q = r then (r, tail :: tails) :: groups else (r, [tail]) :: (q, tails) :: groups
    | [] => [(r, [tail])]

/-! States that are remembered. -/

/-- A number made of others so that different ones rarely share a place. -/
def fingerprint (ns : List Nat) : UInt64 :=
  ns.foldl (fun h n => (h ^^^ n.toUInt64) * 1099511628211) 14695981039346656037

/-- Remembered states by their place; a later one displaces an earlier one. -/
abbrev Memory := Std.HashMap Nat (List Nat × Nat)

/-- The state that was remembered under a key, or a new one that is remembered in its place. -/
def remember (places : Nat) (key : List Nat) (new : Build Nat) : StateT Memory Build Nat := do
  let place := (fingerprint key).toNat % places
  match (← get)[place]? with
  | some (old, state) =>
    if old = key then return state
    else
      let state ← new
      modify (·.insert place (key, state))
      return state
  | none =>
    let state ← new
    modify (·.insert place (key, state))
    return state

/-- A transition on a range of bytes to a state. -/
structure Edge where
  range : ByteRange
  target : Nat

/-- The state that reads one of several sequences up to a last state. -/
def sequenceState (last : Nat) : Nat → List (List ByteRange) → StateT Memory Build Nat
  | 0, _ => return last
  | n + 1, sequences => do
    let edges ← (groupHeads sequences).mapM fun (range, tails) => do
      if tails.all List.isEmpty then return Edge.mk range last
      else return Edge.mk range (← sequenceState last n tails)
    remember 10000 (edges.flatMap fun e => [e.range.1, e.range.2, e.target])
      (add (Draft.transitionSize * edges.length))

/-- The states of a set that read its sequences forwards; equal ends are shared. -/
def forwardSet (runs : List (Nat × Nat)) : Build Unit := do
  let last ← add 0
  discard ((sequenceState last 4 (byteSequences runs)).run ∅)

/-- The states of a set that read its sequences backwards; equal starts are shared. -/
def backwardSet (runs : List (Nat × Nat)) : Build Unit := do
  addUnion 0
  let last ← add 0
  let chains : StateT Memory Build Unit := (byteSequences runs).forM fun ranges => do
    discard <| ranges.foldlM (fun state (r : ByteRange) =>
      remember 1000 [state, r.1, r.2] (add 0)) last
    addBranch
  discard (chains.run ∅)

def setStates (backward : Bool) (runs : List (Nat × Nat)) : Build Unit :=
  if runs.all fun r => r.2 < 0x80 then do
    addPlain
    addEdges runs.length
  else if backward then backwardSet runs else forwardSet runs

/-! Alternatives that are all texts. -/

/-- The texts that start with the same byte, in the order of their first. -/
def groupBytes (words : List (List Nat)) : List (List (List Nat)) :=
  (words.filterMap List.head?).eraseDups.map fun b =>
    words.filterMap fun
      | c :: w => if c = b then some w else none
      | [] => none

/-- The texts between those that end here. -/
def chunks : List (List Nat) → List (List (List Nat))
  | [] => [[]]
  | [] :: rest => [] :: chunks rest
  | word :: rest =>
    match chunks rest with
    | chunk :: others => (word :: chunk) :: others
    | [] => [[word]]

/-- One text that ends here is as good as several, as long as no other went before. -/
def dropRepeatedEnds : List (List Nat) → List (List Nat)
  | [] :: [] :: rest => dropRepeatedEnds ([] :: rest)
  | words => words
termination_by words => words.length

/-- The tree of several texts: a state that branches and one for each chunk of a node. -/
def textTree : Nat → List (List Nat) → Build Unit
  | 0, _ => pure ()
  | n + 1, words => do
    let parts := chunks (dropRepeatedEnds words)
    parts.forM fun part => do
      let children := groupBytes part
      children.forM fun child =>
        if child.all List.isEmpty then pure () else textTree n child
      match children.length with
      | 0 => pure ()
      | 1 => addPlain
      | count => addEdges count
    addUnion (parts.length - 1 + (parts.filter (!·.isEmpty)).length)

/-- All alternatives if they are texts. -/
def texts? : Plan → Option (List (List Nat))
  | .bytes bs => some [bs]
  | .either (.bytes bs) q => (texts? q).map (bs :: ·)
  | _ => none

/-! Whole patterns. -/

/-- Where a part stands: by itself, or as a later one of several alternatives. -/
inductive Place
  | whole
  | second
  | later

/-- What follows the states of a part. -/
def Place.close : Place → Build Unit
  | whole => pure ()
  | second => do
    addUnion 2
    addPlain
  | later => addBranch

def states (backward : Bool) (place : Place) : Plan → Build Unit
  | .empty => do
    addPlain
    place.close
  | .bytes bs => do
    times bs.length addPlain
    place.close
  | .set runs => do
    setStates backward runs
    place.close
  | .look _ => do
    addPlain
    place.close
  | .kept p => do
    if backward then states backward .whole p
    else
      addPlain
      states backward .whole p
      addPlain
    place.close
  | .both p q => do
    if backward then
      states backward .whole q
      states backward .whole p
    else
      states backward .whole p
      states backward .whole q
    place.close
  | .either p q =>
    match place with
    | .whole =>
      match texts? (.either p q) with
      | some words => do
        addPlain
        let longest := (words.map List.length).foldl max 0
        textTree (longest + 1) (if backward then words.map List.reverse else words)
      | none => do
        states backward .whole p
        states backward .second q
    | _ => do
      states backward .whole p
      place.close
      states backward .later q
  | .repeated p least most => do
    let once := states backward .whole p
    let exactly (n : Nat) : Build Unit := if n = 0 then addPlain else times n once
    match least, most with
    | 0, some 1 =>
      addUnion 2
      once
      addPlain
    | 0, none =>
      if (p.minLength.map (decide <| 0 < ·)).getD false then
        addUnion 2
        once
      else
        once
        addUnion 2
        addUnion 2
        addPlain
    | least, none =>
      times least once
      addUnion 2
    | least, some most =>
      exactly least
      if least < most then
        addPlain
        times (most - least) do
          addUnion 2
          once
    place.close

/-- A start that may pass over any bytes, unless every match is at an end of the text. -/
def start (anchored : Bool) : Build Unit :=
  if anchored then addPlain
  else do
    addUnion 2
    addPlain
    addEdges 1

def forward (p : Plan) : Build Unit := do
  start (p.startsAt .textStart)
  states false .whole (.kept p)
  addPlain

def backward (p : Plan) : Build Unit := do
  start (p.endsAt .textEnd)
  states true .whole p
  addPlain

/-- Whether both automata of a pattern keep within the limit. -/
def fits (p : Pattern) : Bool :=
  let plan := p.plan
  ((forward plan).run {}).isSome && ((backward plan).run {}).isSome

end ZodCatalog.Pattern.Automaton
