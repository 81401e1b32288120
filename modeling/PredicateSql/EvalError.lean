import PredicateSql.Value

/-!
# Failures of evaluation

Why an operator or an expression has no value, and the wording of each cause.
-/

namespace PredicateSql

inductive EvalError
  /-- A value or column of another type than `context` asks for; no type stands for `NULL`. -/
  | typeMismatch (expected : DataType) (actual : Option DataType) (context : String)
  | invalidOperands (operator : String) (left right : Option DataType)
  | divisionByZero
  | unexpectedNull (context : String)
  | unknownMember (owner member : String)
  /-- A column is known to the database only. -/
  | notClosed (parameter member : String)
  /-- Only the members of a captured object are values. -/
  | objectAsValue (name : String)
deriving DecidableEq

namespace EvalError

def operandType : Option DataType → String
  | none => "None"
  | some .boolean => "Some(Boolean)"
  | some .int32 => "Some(Int32)"
  | some .varchar => "Some(Varchar)"

def message : EvalError → String
  | .typeMismatch expected actual context =>
    let got := (actual.map DataType.sqlName).getD "NULL"
    s!"Type mismatch in {context}: expected {expected.sqlName}, got {got}"
  | .invalidOperands operator left right =>
    s!"Invalid operand types for operator {operator}: " ++
      s!"left={operandType left}, right={operandType right}"
  | .divisionByZero => "Division by zero"
  | .unexpectedNull context => s!"Unexpected NULL value in {context}"
  | .unknownMember owner member => s!"Captured value '{owner}' has no member '{member}'"
  | .notClosed parameter member =>
    s!"Expression '{parameter}.{member}' references a column and cannot be evaluated host-side"
  | .objectAsValue name =>
    s!"Expression evaluation error: captured object '{name}' cannot be used as a value"

end EvalError

/-- The truth value where `context` needs one: neither `NULL` nor another type. -/
def Value.asBool (context : String) : Value → Except EvalError Bool
  | .boolean b => .ok b
  | .null => .error (.unexpectedNull context)
  | v => .error (.typeMismatch .boolean v.type? context)

end PredicateSql
