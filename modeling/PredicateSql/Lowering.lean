import PredicateSql.Expr.Dependence
import PredicateSql.Expr.Eval
import PredicateSql.Filter
import PredicateSql.QueryError
import PredicateSql.Run

/-!
# From predicates to filters

Lowering a predicate evaluates its closed parts at once and leaves the rest to the database.
A closed operand that decides a logical operator decides it here, and the other operand is
then not looked at; one that does not matter is dropped.
-/

namespace PredicateSql

/-- Where the fields of a predicate are looked up: the table, the record it is asked for, and
the name of the predicate's parameter. -/
structure Scope where
  table : Table
  record : String
  parameter : String
deriving DecidableEq

inductive Lowered
  | folded (value : Bool)
  | filter (f : Filter)
deriving DecidableEq

/-- As a condition on its own, a decided predicate is one bound truth value. -/
def Lowered.fragment : Lowered → Fragment
  | .folded value => .parameter (.boolean value)
  | .filter f => f.fragment

inductive Operand
  | value (v : Value)
  | term (t : Term) (type : DataType) (label : Label)
deriving DecidableEq

namespace Operand

def type? : Operand → Option DataType
  | .value v => v.type?
  | .term _ type _ => some type

def toTerm : Operand → Term
  | .value v => .bound v
  | .term t _ _ => t

end Operand

/-- The result type of arithmetic on operands, where `NULL` takes the other operand's type. -/
def ArithOp.operandType? (op : ArithOp) : Option DataType → Option DataType → Option DataType
  | some l, some r => op.resultType? l r
  | some t, none => op.resultType? t t
  | none, some t => op.resultType? t t
  | none, none => none

/-- Compares what the database computes with a value; `NULL` can only be tested for. -/
def Filter.compareValue (op : CompareOp) (o : Operand) (v : Value) : Except QueryError Filter :=
  match o, v, op with
  | .value _, _, _ => .error (.unsupported .hostComparison)
  | .term t _ _, .null, .eq => .ok (.isNull t)
  | .term t _ _, .null, .ne => .ok (.isNotNull t)
  | .term _ _ label, .null, op => .error (.unsupported (.nullOrdering op label))
  | .term t type label, v, op =>
    if v.fits type then .ok (.compare op t (.bound v))
    else .error (.evaluation (.typeMismatch type v.type? ("comparison with " ++ label.text)))

namespace Expr

def hostValue (e : Expr) : Except QueryError Operand :=
  (e.eval.mapError .evaluation).map .value

def fold (e : Expr) : Run QueryError Lowered := do
  let value ← .ofExcept ((e.evalBool "predicate").mapError .evaluation)
  .note (.folded e value)
  return .folded value

theorem result_fold (e : Expr) :
    e.fold.result = ((e.evalBool "predicate").mapError .evaluation).map .folded := by
  unfold fold
  cases e.evalBool "predicate" <;> rfl

end Expr

namespace Scope

def resolve (s : Scope) (owner : Owner) (member : String) : Except QueryError Column :=
  match owner with
  | .parameter name =>
    if name = s.parameter then
      match s.table.column? s.record member with
      | some column => .ok column
      | none => .error (.unknownColumn s.record member)
    else .error (.unsupported (.foreignMember name member s.parameter))
  | .capture c => .error (.unsupported (.capturedMember c.name member))

/-- Lowers an operand: closed ones to their value, fields and arithmetic on them to terms.
A truth value can be an operand only if it is closed. -/
def operand (s : Scope) : Expr → Except QueryError Operand
  | .member owner member =>
    if (Expr.member owner member).isClosed then (Expr.member owner member).hostValue
    else do
      let column ← s.resolve owner member
      return .term (.column column.name) column.type (.column column.name)
  | .arith op left right =>
    if (Expr.arith op left right).isClosed then (Expr.arith op left right).hostValue
    else do
      let l ← s.operand left
      let r ← s.operand right
      match op.operandType? l.type? r.type? with
      | some type =>
        return .term (.arith op l.toTerm r.toTerm) type (.expression (.arith op left right))
      | none => throw (.evaluation (.invalidOperands op.sql l.type? r.type?))
  | e => if e.isClosed then e.hostValue else .error (.unsupported (.booleanOperand e))

theorem operand_field (s : Scope) (name member : String) :
    s.operand (.member (.parameter name) member) = do
      let column ← s.resolve (.parameter name) member
      return .term (.column column.name) column.type (.column column.name) := rfl

/-- A boolean field on its own means that it is true. -/
def booleanField (s : Scope) (owner : Owner) (member : String) : Except QueryError Filter := do
  let column ← s.resolve owner member
  if column.type = .boolean then
    return .compare .eq (.column column.name) (.bound (.boolean true))
  else
    throw (.evaluation (.typeMismatch .boolean (some column.type)
      ("predicate on column " ++ column.name)))

/-- Lowers a comparison. A value on the left changes places with the term on the right. -/
def comparison (s : Scope) (op : CompareOp) (left right : Expr) : Run QueryError Lowered := do
  let l ← .ofExcept (s.operand left)
  let r ← .ofExcept (s.operand right)
  match l, r with
  | .value l, .value r => (Expr.compare op (.constant l) (.constant r)).fold
  | .term t type label, .value v =>
    return .filter (← .ofExcept (Filter.compareValue op (.term t type label) v))
  | .value v, .term t type label =>
    return .filter (← .ofExcept (Filter.compareValue op.flip (.term t type label) v))
  | .term l lt _, .term r rt _ =>
    if CompareOp.comparable lt rt then return .filter (.compare op l r)
    else .error (.evaluation (.invalidOperands op.sql (some lt) (some rt)))

def lower (s : Scope) : Expr → Run QueryError Lowered
  | .constant v => (Expr.constant v).fold
  | .capture c => (Expr.capture c).fold
  | .member owner name =>
    if (Expr.member owner name).isClosed then (Expr.member owner name).fold
    else do return .filter (← .ofExcept (s.booleanField owner name))
  | .compare op left right =>
    if (Expr.compare op left right).isClosed then (Expr.compare op left right).fold
    else s.comparison op left right
  | .arith op left right =>
    if (Expr.arith op left right).isClosed then (Expr.arith op left right).fold
    else .error (.unsupported (.arithmeticPredicate (.arith op left right)))
  | .logic op left right => do
    match ← s.lower left with
    | .folded value =>
      if value = op.absorbing then
        .note (.shortCircuited op value)
        return .folded value
      else
        .note (.identityDropped op)
        s.lower right
    | .filter l =>
      match ← s.lower right with
      | .folded value =>
        if value = op.absorbing then
          .note (.absorbed op value)
          return .folded value
        else
          .note (.identityDropped op)
          return .filter l
      | .filter r => return .filter (.logic op l r)
  | .not operand => do
    match ← s.lower operand with
    | .folded value => return .folded (!value)
    | .filter f => return .filter (.not f)

theorem lower_field (s : Scope) (name member : String) :
    s.lower (.member (.parameter name) member) = do
      return .filter (← .ofExcept (s.booleanField (.parameter name) member)) := rfl

theorem result_lower_not (s : Scope) (operand : Expr) :
    (s.lower (.not operand)).result = (s.lower operand).result.map fun
      | .folded value => .folded (!value)
      | .filter f => .filter (.not f) := by
  simp only [lower, Run.result_bind]
  cases (s.lower operand).result with
  | error e => rfl
  | ok lowered => cases lowered <;> rfl

theorem result_lower_logic (s : Scope) (op : LogicOp) (left right : Expr) :
    (s.lower (.logic op left right)).result = do
      match ← (s.lower left).result with
      | .folded value =>
        if value = op.absorbing then return .folded value else (s.lower right).result
      | .filter l =>
        match ← (s.lower right).result with
        | .folded value => if value = op.absorbing then return .folded value else return .filter l
        | .filter r => return .filter (.logic op l r) := by
  simp only [lower, Run.result_bind]
  cases (s.lower left).result with
  | error e => rfl
  | ok lowered =>
    cases lowered with
    | folded value => by_cases h : value = op.absorbing <;> simp only [h, bind, Except.bind] <;> rfl
    | filter l =>
      show (s.lower right >>= _).result = ((s.lower right).result >>= _)
      rw [Run.result_bind]
      cases (s.lower right).result with
      | error e => rfl
      | ok lowered =>
        cases lowered with
        | folded value =>
          by_cases h : value = op.absorbing <;> simp only [h, bind, Except.bind] <;> rfl
        | filter r => rfl

def compile (s : Scope) (e : Expr) : Except QueryError Fragment :=
  (s.lower e).result.map Lowered.fragment

end Scope

end PredicateSql
