import ZodCatalog.Document.Value

/-!
Documents written as JSON, on one line or indented by two spaces a level.
-/

namespace ZodCatalog.Document

namespace Json

def hexDigit (n : Nat) : Char := if n < 10 then Char.ofNat (48 + n) else Char.ofNat (87 + n)

/-- Quotes, backslashes and control characters are escaped, all else stands for itself. -/
def escapeChar (c : Char) : List Char :=
  if c = '"' then ['\\', '"']
  else if c = '\\' then ['\\', '\\']
  else if c = '\n' then ['\\', 'n']
  else if c = '\r' then ['\\', 'r']
  else if c = '\t' then ['\\', 't']
  else if c = '\x08' then ['\\', 'b']
  else if c = '\x0c' then ['\\', 'f']
  else if c.toNat < 32 then
    ['\\', 'u', '0', '0', hexDigit (c.toNat / 16), hexDigit (c.toNat % 16)]
  else [c]

def quote (s : String) : String :=
  String.ofList ('"' :: s.toList.flatMap escapeChar ++ ['"'])

def scalar : Value → String
  | .null => "null"
  | .bool true => "true"
  | .bool false => "false"
  | .int n => toString n
  | .decimal digits => digits
  | .text s => quote s
  | .list _ => ""
  | .record _ => ""

end Json

namespace Value

open Json

mutual

/-- The value on one line without blanks. -/
def compact : Value → String
  | .list items => "[" ++ compactItems items ++ "]"
  | .record fields => "\x7b" ++ compactFields fields ++ "\x7d"
  | v => scalar v

def compactItems : List Value → String
  | [] => ""
  | [v] => compact v
  | v :: vs => compact v ++ "," ++ compactItems vs

def compactFields : List (String × Value) → String
  | [] => ""
  | [(k, v)] => quote k ++ ":" ++ compact v
  | (k, v) :: fs => quote k ++ ":" ++ compact v ++ "," ++ compactFields fs

end

def indentation (depth : Nat) : String := String.ofList (List.replicate (2 * depth) ' ')

mutual

/-- The value over several lines; empty lists and records stay on one. -/
def pretty (depth : Nat) : Value → String
  | .list [] => "[]"
  | .record [] => "\x7b\x7d"
  | .list items => "[\n" ++ prettyItems (depth + 1) items ++ "\n" ++ indentation depth ++ "]"
  | .record fields =>
    "\x7b\n" ++ prettyFields (depth + 1) fields ++ "\n" ++ indentation depth ++ "\x7d"
  | v => scalar v

def prettyItems (depth : Nat) : List Value → String
  | [] => ""
  | [v] => indentation depth ++ pretty depth v
  | v :: vs => indentation depth ++ pretty depth v ++ ",\n" ++ prettyItems depth vs

def prettyFields (depth : Nat) : List (String × Value) → String
  | [] => ""
  | [(k, v)] => indentation depth ++ quote k ++ ": " ++ pretty depth v
  | (k, v) :: fs =>
    indentation depth ++ quote k ++ ": " ++ pretty depth v ++ ",\n" ++ prettyFields depth fs

end

end Value

end ZodCatalog.Document
