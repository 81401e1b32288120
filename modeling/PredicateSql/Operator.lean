import PredicateSql.EvalError

/-!
# Operators

Comparison, logical and arithmetic operators with their spelling in SQL, the order of
values, and arithmetic on them. Host evaluation and the database share these.
-/

namespace PredicateSql

inductive CompareOp
  | eq
  | ne
  | lt
  | le
  | gt
  | ge
deriving DecidableEq

namespace CompareOp

def sql : CompareOp → String
  | .eq => "="
  | .ne => "<>"
  | .lt => "<"
  | .le => "<="
  | .gt => ">"
  | .ge => ">="

def flip : CompareOp → CompareOp
  | .eq => .eq
  | .ne => .ne
  | .lt => .gt
  | .le => .ge
  | .gt => .lt
  | .ge => .le

def isEquality : CompareOp → Bool
  | .eq | .ne => true
  | _ => false

def holds : CompareOp → Ordering → Bool
  | .eq, o => o.isEq
  | .ne, o => o.isNe
  | .lt, o => o.isLT
  | .le, o => o.isLE
  | .gt, o => o.isGT
  | .ge, o => o.isGE

/-- Only columns of one type compare; no type widens to another. -/
def comparable (left right : DataType) : Bool :=
  left == right

@[simp] theorem flip_flip (op : CompareOp) : op.flip.flip = op := by
  cases op <;> rfl

theorem holds_flip (op : CompareOp) (o : Ordering) : op.flip.holds o = op.holds o.swap := by
  cases op <;> cases o <;> rfl

end CompareOp

inductive LogicOp
  | and
  | or
deriving DecidableEq

namespace LogicOp

def sql : LogicOp → String
  | .and => "AND"
  | .or => "OR"

/-- The operand that decides the result on its own. -/
def absorbing : LogicOp → Bool
  | .and => false
  | .or => true

def identity (op : LogicOp) : Bool :=
  !op.absorbing

def apply : LogicOp → Bool → Bool → Bool
  | .and, a, b => a && b
  | .or, a, b => a || b

end LogicOp

inductive ArithOp
  | add
  | sub
  | mul
  | div
  | mod
deriving DecidableEq

namespace ArithOp

def sql : ArithOp → String
  | .add => "+"
  | .sub => "-"
  | .mul => "*"
  | .div => "/"
  | .mod => "%"

/-- Integers take every operator; strings are only joined. -/
def resultType? : ArithOp → DataType → DataType → Option DataType
  | _, .int32, .int32 => some .int32
  | .add, .varchar, .varchar => some .varchar
  | _, _, _ => none

/-- Wraps at 32 bits; division goes toward zero and the remainder takes the dividend's sign. -/
def applyInt : ArithOp → Int32 → Int32 → Except EvalError Int32
  | .add, a, b => .ok (a + b)
  | .sub, a, b => .ok (a - b)
  | .mul, a, b => .ok (a * b)
  | .div, a, b => if b = 0 then .error .divisionByZero else .ok (a / b)
  | .mod, a, b => if b = 0 then .error .divisionByZero else .ok (a % b)

/-- Gives `NULL` where either side is `NULL`, before any type is looked at. -/
def apply (op : ArithOp) : Value → Value → Except EvalError Value
  | .null, _ => .ok .null
  | _, .null => .ok .null
  | .int32 a, .int32 b => (op.applyInt a b).map .int32
  | .string a, .string b =>
    if op = .add then .ok (.string (a ++ b))
    else .error (.invalidOperands op.sql (some .varchar) (some .varchar))
  | left, right => .error (.invalidOperands op.sql left.type? right.type?)

end ArithOp

/-- The order of two values of one type: `false` before `true`, strings by code points. -/
def Value.compare : Value → Value → Except EvalError Ordering
  | .int32 a, .int32 b => .ok (Ord.compare a b)
  | .string a, .string b => .ok (Ord.compare a b)
  | .boolean a, .boolean b => .ok (Ord.compare a b)
  | left, right => .error (.invalidOperands "comparison" left.type? right.type?)

end PredicateSql
