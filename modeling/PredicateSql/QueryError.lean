import PredicateSql.Expr
import PredicateSql.Report

/-!
# Failures of a query

Why a predicate does not compile or a query yields no records, and the wording of each cause.
-/

namespace PredicateSql

/-- What messages call an operand that the database computes: the column by its name, and
arithmetic by the expression it comes from. -/
inductive Label
  | column (name : String)
  | expression (e : Expr)
deriving DecidableEq

def Label.text : Label → String
  | .column name => name
  | .expression e => e.render

inductive Unsupported
  | foreignMember (owner member parameter : String)
  | capturedMember (owner member : String)
  | arithmeticPredicate (e : Expr)
  | booleanOperand (e : Expr)
  | nullOrdering (op : CompareOp) (label : Label)
  | hostComparison
deriving DecidableEq

def Unsupported.message : Unsupported → String
  | .foreignMember owner member parameter =>
    s!"member access '{owner}.{member}' is not rooted at the query parameter '{parameter}'"
  | .capturedMember owner member =>
    s!"captured value '{owner}.{member}' cannot be resolved to a column"
  | .arithmeticPredicate e => s!"arithmetic expression '{e.render}' used as a predicate"
  | .booleanOperand e => s!"boolean expression '{e.render}' used as a comparison operand"
  | .nullOrdering op label => s!"ordering comparison '{op.sql}' of {label.text} against NULL"
  | .hostComparison => "comparison between two host values reached SQL lowering"

inductive QueryError
  | unknownColumn (record field : String)
  | unsupported (shape : Unsupported)
  | evaluation (cause : EvalError)
  | execution (cause : Report)
  | materialize (record : String) (cause : Report)
  | multipleRows (record : String) (count : Nat)
deriving DecidableEq

def QueryError.message : QueryError → String
  | .unknownColumn record field => s!"Unknown column: {record}.{field} has no mapped column"
  | .unsupported shape => s!"Unsupported expression: {shape.message}"
  | .evaluation cause => s!"Evaluation error: {cause.message}"
  | .execution cause => s!"Execution error: {cause.text}"
  | .materialize record cause => s!"Failed to materialize {record} row: {cause.text}"
  | .multipleRows record count => s!"Expected at most one {record} row, got {count}"

/-- Only an evaluation names its cause apart from its own text. -/
def QueryError.report : QueryError → Report
  | .evaluation cause => ⟨cause.message, [QueryError.message (.evaluation cause)]⟩
  | e => ⟨e.message, []⟩

end PredicateSql
