/-!
# Reports of failures

How a failure is told to a caller who does not know its cause by type.
-/

namespace PredicateSql

/-- The text of the root cause and the contexts put around it, the innermost first. -/
structure Report where
  root : String
  contexts : List String
deriving DecidableEq

namespace Report

def wrap (r : Report) (context : String) : Report :=
  { r with contexts := r.contexts ++ [context] }

def text (r : Report) : String :=
  r.contexts.foldl (fun text context => context ++ ": " ++ text) r.root

end Report

end PredicateSql
