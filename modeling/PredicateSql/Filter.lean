import PredicateSql.Fragment
import PredicateSql.Operator

/-!
# Filters

The condition of a query as the database will check it: comparisons of columns and bound
values under logical operators. A filter is written out as a fragment.
-/

namespace PredicateSql

inductive Term
  | column (name : String)
  | bound (value : Value)
  | arith (op : ArithOp) (left right : Term)
deriving DecidableEq

inductive Filter
  | compare (op : CompareOp) (left right : Term)
  | isNull (operand : Term)
  | isNotNull (operand : Term)
  | not (operand : Filter)
  | logic (op : LogicOp) (left right : Filter)
deriving DecidableEq

namespace Fragment

/-- Arithmetic within arithmetic stands in parentheses. -/
def appendOperand (f operand : Fragment) : Fragment :=
  match operand.kind with
  | .arithmetic => f.appendWrapped operand
  | _ => f.append operand

/-- Comparisons and negations bind more tightly than `AND` and `OR`; anything else stands in
parentheses. -/
def appendBranch (f branch : Fragment) : Fragment :=
  match branch.kind with
  | .comparison | .negation => f.append branch
  | _ => f.appendWrapped branch

end Fragment

def Term.fragment : Term → Fragment
  | .column name => .sql name .operand
  | .bound value => .parameter value
  | .arith op left right =>
    (((Fragment.sql "" .arithmetic).appendOperand left.fragment).pushSql
      (" " ++ op.sql ++ " ")).appendOperand right.fragment

def LogicOp.kind : LogicOp → Fragment.Kind
  | .and => .conjunction
  | .or => .disjunction

def Filter.fragment : Filter → Fragment
  | .compare op left right =>
    ((left.fragment.withKind .comparison).pushSql (" " ++ op.sql ++ " ")).append right.fragment
  | .isNull operand => (operand.fragment.withKind .comparison).pushSql " IS NULL"
  | .isNotNull operand => (operand.fragment.withKind .comparison).pushSql " IS NOT NULL"
  | .not operand => (Fragment.sql "NOT " .negation).appendWrapped operand.fragment
  | .logic op left right =>
    (((Fragment.sql "" op.kind).appendBranch left.fragment).pushSql
      (" " ++ op.sql ++ " ")).appendBranch right.fragment

end PredicateSql
