import PredicateSql.Condition
import PredicateSql.Token

/-!
# SELECT statements

A statement as it is parsed.
-/

namespace PredicateSql

inductive Projection
  | all
  | columns (names : List String)
deriving DecidableEq

structure Select (ρ : Type) where
  projection : Projection
  table : String
  filter : Option (Condition ρ)
deriving DecidableEq

inductive Reference
  /-- The parameter at that index, counted from zero. -/
  | positional (index : Nat)
  | numbered (n : Nat)
  | named (name : String)
deriving DecidableEq

def Reference.describe : Reference → String
  | .positional index => s!"Positional({index})"
  | .numbered n => s!"Numbered({n})"
  | .named name => s!"Named({Text.quote name})"

end PredicateSql
