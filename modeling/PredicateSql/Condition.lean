import PredicateSql.Operator

/-!
# Conditions

The condition of a `WHERE` clause as it is parsed, with placeholders of any kind `ρ`.
-/

namespace PredicateSql

inductive Condition (ρ : Type)
  | column (name : String)
  | literal (value : Value)
  | placeholder (p : ρ)
  | compare (op : CompareOp) (left right : Condition ρ)
  | arith (op : ArithOp) (left right : Condition ρ)
  | logic (op : LogicOp) (left right : Condition ρ)
  | not (operand : Condition ρ)
  | negate (operand : Condition ρ)
  /-- Written `IS NULL`, or `IS NOT NULL` where negated. -/
  | isNull (negated : Bool) (operand : Condition ρ)
deriving DecidableEq

end PredicateSql
