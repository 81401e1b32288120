import PredicateSql.Expr

/-!
# Dependence on columns

A closed expression mentions no field of the record, so the program itself can evaluate it.
All other expressions need the database, with or without closed parts among their operands.
-/

namespace PredicateSql

inductive Dependence
  /-- No field of the record occurs. -/
  | closed
  /-- Fields only, under comparisons and logical operators. -/
  | columns
  /-- Fields together with closed parts or arithmetic. -/
  | mixed
deriving DecidableEq

namespace Dependence

def combine : Dependence → Dependence → Dependence
  | .closed, .closed => .closed
  | .columns, .columns => .columns
  | _, _ => .mixed

/-- Arithmetic on fields alone already counts as mixed. -/
def combineArith : Dependence → Dependence → Dependence
  | .closed, .closed => .closed
  | _, _ => .mixed

end Dependence

namespace Expr

def dependence : Expr → Dependence
  | .constant _ => .closed
  | .member (.parameter _) _ => .columns
  | .member (.capture _) _ => .closed
  | .capture _ => .closed
  | .compare _ left right => left.dependence.combine right.dependence
  | .arith _ left right => left.dependence.combineArith right.dependence
  | .logic _ left right => left.dependence.combine right.dependence
  | .not operand => operand.dependence

def isClosed (e : Expr) : Bool :=
  e.dependence == .closed

end Expr

end PredicateSql
