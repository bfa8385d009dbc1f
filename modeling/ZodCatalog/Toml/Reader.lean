import ZodCatalog.Toml.Number
import ZodCatalog.Toml.Quoted
import ZodCatalog.Toml.Table

/-!
TOML documents: a sequence of assignments under headers, read into the fields of a record.
-/

namespace ZodCatalog.Toml

open Document

mutual

/-- A value that nests at most `depth` deep. -/
def value : Nat → Nat → List Char → Option (Value × List Char)
  | 0, _, _ => none
  | fuel + 1, depth + 1, '[' :: r => do
    let (vs, r) ← items fuel depth (skipGap false r)
    return (.list vs, r)
  | fuel + 1, depth + 1, '\x7b' :: r => do
    let (entries, r) ← match skipBlanks r with
      | '\x7d' :: r => some ([], r)
      | r => pairs fuel depth [] r
    return (.record (fieldsOf entries), r)
  | _ + 1, _, '"' :: r => do
    let (text, r) ← quoted? ('"' :: r)
    return (.text (String.ofList text), r)
  | _ + 1, _, '\'' :: r => do
    let (text, r) ← quoted? ('\'' :: r)
    return (.text (String.ofList text), r)
  | _ + 1, _, s => scalarWord? s

/-- The elements of a list up to its bracket; a comma may follow the last. -/
def items : Nat → Nat → List Char → Option (List Value × List Char)
  | 0, _, _ => none
  | _ + 1, _, ']' :: r => some ([], r)
  | fuel + 1, depth, s => do
    let (v, r) ← value fuel depth s
    match skipGap false r with
    | ',' :: r =>
      let (vs, r) ← items fuel depth (skipGap false r)
      return (v :: vs, r)
    | ']' :: r => return ([v], r)
    | _ => none

/-- The assignments of a table on one line up to its brace. -/
def pairs : Nat → Nat → Entries → List Char → Option (Entries × List Char)
  | 0, _, _, _ => none
  | fuel + 1, depth, entries, s => do
    let ((path, key), r) ← key? s
    match r with
    | '=' :: r =>
      let (v, r) ← value fuel depth (skipBlanks r)
      let entries ← entries.assign path key v
      match skipBlanks r with
      | ',' :: r => pairs fuel depth entries r
      | '\x7d' :: r => return (entries, r)
      | _ => none
    | _ => none

end

/-- A document while it is read: its tables, and the header that assignments are under. -/
structure Draft where
  root : Entries := []
  current : List String := []

namespace Draft

/-- An assignment below the current header. -/
def assign (d : Draft) (path : List String) (key : String) (v : Value) : Option Draft := do
  let root ← d.root.descend false (fun _ es => es.assign path key v) false d.current
  return { d with root }

def openTable (d : Draft) (path : List String) (key : String) : Option Draft := do
  return ⟨← d.root.openTable path key, path ++ [key]⟩

def openElement (d : Draft) (path : List String) (key : String) : Option Draft := do
  return ⟨← d.root.openElement path key, path ++ [key]⟩

/-- A header, an assignment or an empty line, with the end of its line. -/
def line (d : Draft) : List Char → Option (Draft × List Char)
  | '#' :: r => do return (d, ← lineEnd? ('#' :: r))
  | '\n' :: r => some (d, r)
  | '\r' :: r => do return (d, ← newline? ('\r' :: r))
  | '[' :: '[' :: r => do
    let ((path, key), r) ← key? r
    match r with
    | ']' :: ']' :: r => return (← d.openElement path key, ← lineEnd? r)
    | _ => none
  | '[' :: r => do
    let ((path, key), r) ← key? r
    match r with
    | ']' :: r => return (← d.openTable path key, ← lineEnd? r)
    | _ => none
  | s => do
    let ((path, key), r) ← key? s
    match r with
    | '=' :: r =>
      let (v, r) ← value (2 * r.length + 2) nestingLimit (skipBlanks r)
      return (← d.assign path key v, ← lineEnd? r)
    | _ => none

def lines : Nat → Draft → List Char → Option Draft
  | 0, d, s => if (skipBlanks s).isEmpty then some d else none
  | fuel + 1, d, s =>
    if (skipBlanks s).isEmpty then some d
    else do
      let (d, r) ← d.line (skipBlanks s)
      lines fuel d r

end Draft

/-- A mark of the byte order in front of a text does not count. -/
def dropMark : List Char → List Char
  | '\uFEFF' :: r => r
  | s => s

def read? (text : String) : Option Fields := do
  let s := dropMark text.toList
  let draft ← Draft.lines s.length {} s
  return fieldsOf draft.root

end ZodCatalog.Toml
