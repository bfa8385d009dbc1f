/-!
Why a text is refused as a pattern.
-/

namespace ZodCatalog

inductive Pattern.Fault
  | malformed
  /-- Its automaton takes more bytes than the limit. -/
  | tooLarge (limit : Nat)
deriving Repr, DecidableEq

namespace Pattern.Fault

/-- What is said of the fault, where one sentence says it. -/
def explanation? : Fault → Option String
  | malformed => none
  | tooLarge limit => some ("Compiled regex exceeds size limit of " ++ toString limit ++ " bytes.")

end Pattern.Fault

end ZodCatalog
