import PredicateSql.Expr

/-!
# Evaluation by the program

The value of an expression without the database: two truth values, `AND` and `OR` that stop
at a deciding left operand, and `NULL` as an ordinary value of equality. A field of the record
has no value here.
-/

namespace PredicateSql

/-- Here `NULL` equals `NULL` and nothing else, and no ordering holds of it. -/
def CompareOp.test (op : CompareOp) (left right : Value) : Except EvalError Bool :=
  match left.isNull, right.isNull with
  | true, true => .ok (op == .eq)
  | false, false => (left.compare right).map op.holds
  | _, _ => .ok (op == .ne)

def Capture.value (c : Capture) : Except EvalError Value :=
  match c.content with
  | .scalar v => .ok v
  | .object _ => .error (.objectAsValue c.name)

def Capture.member (c : Capture) (name : String) : Except EvalError Value :=
  match c.content.member? name with
  | some v => .ok v
  | none => .error (.unknownMember c.name name)

namespace Expr

def eval : Expr → Except EvalError Value
  | .constant value => .ok value
  | .member (.parameter parameter) name => .error (.notClosed parameter name)
  | .member (.capture c) name => c.member name
  | .capture c => c.value
  | .compare op left right => do
    let l ← left.eval
    let r ← right.eval
    return .boolean (← op.test l r)
  | .arith op left right => do
    let l ← left.eval
    let r ← right.eval
    op.apply l r
  | .logic op left right => do
    let context := op.sql ++ " operand"
    let l ← (← left.eval).asBool context
    if l = op.absorbing then return .boolean l
    else return .boolean (← (← right.eval).asBool context)
  | .not operand => do
    return .boolean (!(← (← operand.eval).asBool "NOT operand"))

def evalBool (context : String) (e : Expr) : Except EvalError Bool := do
  (← e.eval).asBool context

end Expr

end PredicateSql
