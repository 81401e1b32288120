import PredicateSql.Operator

/-!
# Expressions

Boolean expressions over the fields of a record and over values captured from the program
around them, and their printed form. A predicate binds the record to a parameter.
-/

namespace PredicateSql

inductive Captured
  | scalar (value : Value)
  | object (members : List (String × Value))
deriving DecidableEq

/-- The member of that name; of members with one name the last counts. -/
def Captured.member? (name : String) : Captured → Option Value
  | .scalar _ => none
  | .object members => members.reverse.lookup name

/-- A value of the surrounding program, taken when the expression is built. -/
structure Capture where
  name : String
  content : Captured
deriving DecidableEq

inductive Owner
  | parameter (name : String)
  | capture (c : Capture)
deriving DecidableEq

def Owner.name : Owner → String
  | .parameter name => name
  | .capture c => c.name

inductive Expr
  | constant (value : Value)
  | member (owner : Owner) (name : String)
  | capture (c : Capture)
  | compare (op : CompareOp) (left right : Expr)
  | arith (op : ArithOp) (left right : Expr)
  | logic (op : LogicOp) (left right : Expr)
  | not (operand : Expr)
deriving DecidableEq

namespace Expr

def compareSymbol : CompareOp → String
  | .eq => "=="
  | .ne => "!="
  | op => op.sql

def logicSymbol : LogicOp → String
  | .and => "&&"
  | .or => "||"

def isCompare : Expr → Bool
  | .compare .. => true
  | _ => false

/-- Comparisons print bare, so a negated one gets parentheses. -/
def render : Expr → String
  | .constant value => value.render
  | .member owner name => owner.name ++ "." ++ name
  | .capture c => c.name
  | .compare op left right => left.render ++ " " ++ compareSymbol op ++ " " ++ right.render
  | .arith op left right => "(" ++ left.render ++ " " ++ op.sql ++ " " ++ right.render ++ ")"
  | .logic op left right =>
    "(" ++ left.render ++ " " ++ logicSymbol op ++ " " ++ right.render ++ ")"
  | .not operand =>
    if operand.isCompare then "!(" ++ operand.render ++ ")" else "!" ++ operand.render

end Expr

structure Predicate where
  parameter : String
  body : Expr
deriving DecidableEq

namespace Predicate

def render (p : Predicate) : String :=
  p.parameter ++ " => " ++ p.body.render

def defaultParameter : String := "q"

def build (body : (String → Expr) → Expr) : Predicate :=
  ⟨defaultParameter, body (.member (.parameter defaultParameter))⟩

def all : Predicate :=
  build fun _ => .constant (.boolean true)

end Predicate

end PredicateSql
