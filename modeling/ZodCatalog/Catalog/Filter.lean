import ZodCatalog.Error
import ZodCatalog.Pattern.Matching
import ZodCatalog.Pattern.Reader

/-!
Filters on the names of relations. A relation passes if the including side, when there is one,
matches its name, and the excluding side, when there is one, does not.
-/

namespace ZodCatalog

/-- One side of a filter: a pattern, or the names themselves. -/
inductive FilterSpec
  | pattern (text : String)
  | names (names : List String)
deriving Repr, DecidableEq

structure FilterConfig where
  including : Option FilterSpec := none
  excluding : Option FilterSpec := none
deriving Repr, DecidableEq

/-- A side of a filter with its pattern read. -/
inductive NameMatcher
  | pattern (p : Pattern)
  | names (names : List String)
deriving Repr, DecidableEq

namespace NameMatcher

def compile (side : FilterSide) : FilterSpec → Except Error NameMatcher
  | .pattern text =>
    match Pattern.read text with
    | .ok p => .ok (pattern p)
    | .error fault => .error (.configuration (.invalidPattern side text fault))
  | .names ns => .ok (names ns)

/-- A pattern matches anywhere in a name, a list only whole names. -/
def accepts : NameMatcher → String → Bool
  | pattern p, name => p.matchesIn name
  | names ns, name => ns.contains name

end NameMatcher

structure TableFilter where
  including : Option NameMatcher := none
  excluding : Option NameMatcher := none
deriving Repr, DecidableEq

def TableFilter.allows (f : TableFilter) (name : String) : Bool :=
  f.including.all (·.accepts name) && !f.excluding.any (·.accepts name)

/-- Reads both sides, the including one first. -/
def FilterConfig.compile (c : FilterConfig) : Except Error TableFilter := do
  let including ← c.including.mapM (NameMatcher.compile .including)
  let excluding ← c.excluding.mapM (NameMatcher.compile .excluding)
  return { including, excluding }

end ZodCatalog
