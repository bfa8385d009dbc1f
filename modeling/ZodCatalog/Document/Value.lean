/-!
Structured documents: the values that configuration files and descriptor files hold, and readers
for the parts of a record.
-/

namespace ZodCatalog.Document

/-- A document value. A number that is not written as an integer is kept by its digits. -/
inductive Value
  | null
  | bool (b : Bool)
  | int (n : Int)
  | decimal (digits : String)
  | text (s : String)
  | list (items : List Value)
  | record (fields : List (String × Value))
deriving Repr, Inhabited

namespace Value

def asBool? : Value → Option Bool
  | bool b => some b
  | _ => none

def asInt? : Value → Option Int
  | int n => some n
  | _ => none

def asText? : Value → Option String
  | text s => some s
  | _ => none

def asList? (item : Value → Option α) : Value → Option (List α)
  | list items => items.mapM item
  | _ => none

def nullable? (item : Value → Option α) : Value → Option (Option α)
  | null => some none
  | v => (item v).map some

def asInt16? (v : Value) : Option Int16 := do
  let n ← v.asInt?
  if -32768 ≤ n ∧ n ≤ 32767 then some (Int16.ofInt n) else none

def asInt32? (v : Value) : Option Int32 := do
  let n ← v.asInt?
  if -2147483648 ≤ n ∧ n ≤ 2147483647 then some (Int32.ofInt n) else none

theorem asInt16?_toInt (n : Int16) : (int n.toInt).asInt16? = some n := by
  have hbounds : -32768 ≤ n.toInt ∧ n.toInt ≤ 32767 :=
    ⟨n.le_toInt, Int.le_of_lt_add_one n.toInt_lt⟩
  simp only [asInt16?, asInt?, Option.bind_eq_bind, Option.bind_some, if_pos hbounds,
    Int16.ofInt_toInt]

theorem asInt32?_toInt (n : Int32) : (int n.toInt).asInt32? = some n := by
  have hbounds : -2147483648 ≤ n.toInt ∧ n.toInt ≤ 2147483647 :=
    ⟨n.le_toInt, Int.le_of_lt_add_one n.toInt_lt⟩
  simp only [asInt32?, asInt?, Option.bind_eq_bind, Option.bind_some, if_pos hbounds,
    Int32.ofInt_toInt]

def asUInt16? (v : Value) : Option UInt16 := do
  let n ← v.asInt?
  if 0 ≤ n ∧ n ≤ 65535 then some (UInt16.ofNat n.toNat) else none

def ofTexts (xs : List String) : Value := list (xs.map text)

def ofText? : Option String → Value
  | some s => text s
  | none => null

end Value

/-- Where the formats of documents part when a document is read. -/
structure Format where
  /-- What counts as nothing under the name of a constant. -/
  isNothing : Value → Bool
  /-- Whether items behind the last field of a record given by position are passed over. -/
  passesSurplus : Bool

namespace Format

/-- In JSON only null is nothing, and each item has to have a field. -/
def json : Format where
  isNothing
    | .null => true
    | _ => false
  passesSurplus := false

/-- The fields of a JSON record that belong to a part of what it describes. -/
def jsonPart : Format where
  isNothing
    | .null => true
    | .record [] => true
    | _ => false
  passesSurplus := false

/-- In TOML, which has no null, an empty table or list is nothing. -/
def toml : Format where
  isNothing
    | .record [] => true
    | .list [] => true
    | _ => false
  passesSurplus := true

end Format

/--
One of a fixed set of constants by a spelling of it. A record of that spelling alone, with
nothing under it, stands for the constant too.
-/
def Value.asConstant? (format : Format) (constants : List α) (spellings : α → List String) :
    Value → Option α
  | text s => constants.find? fun a => (spellings a).contains s
  | record [(s, v)] =>
    if format.isNothing v then constants.find? fun a => (spellings a).contains s else none
  | _ => none

abbrev Fields := List (String × Value)

namespace Fields

def required (fs : Fields) (key : String) (item : Value → Option α) : Option α :=
  (fs.lookup key).bind item

/-- A field that may be missing or null. -/
def optional (fs : Fields) (key : String) (item : Value → Option α) : Option (Option α) :=
  match fs.lookup key with
  | none => some none
  | some v => v.nullable? item

def orElse (fs : Fields) (key : String) (fallback : α) (item : Value → Option α) : Option α :=
  match fs.lookup key with
  | none => some fallback
  | some v => item v

end Fields

namespace Value

/-- The fields of a record, which may not be given by position. -/
def named? : Value → Option Fields
  | record fields => some fields
  | _ => none

/-- The fields of a record given by name, or all of them in order. -/
def allFields? (keys : List String) : Value → Option Fields
  | record fields => some fields
  | list items => if items.length = keys.length then some (keys.zip items) else none
  | _ => none

/-- The fields of a record given by name, or the first of them in order. -/
def someFields? (format : Format) (keys : List String) : Value → Option Fields
  | record fields => some fields
  | list items =>
    if format.passesSurplus || decide (items.length ≤ keys.length) then some (keys.zip items)
    else none
  | _ => none

end Value

end ZodCatalog.Document
