import PredicateSql.Condition
import PredicateSql.Fragment
import PredicateSql.Select

/-!
# Evaluation by the database

The value of a condition on a row, in SQL's three-valued logic: a comparison with `NULL` is
neither true nor false, and `AND` and `OR` stop at a deciding left operand.
-/

namespace PredicateSql

inductive ConditionError
  | columnNotFound (name : String)
  | unbound (r : Reference)
  | notBoolean (v : Value)
  | notNumeric (v : Value)
  | evaluation (cause : EvalError)
deriving DecidableEq

def ConditionError.message : ConditionError → String
  | .columnNotFound name => s!"Column '{name}' not found"
  | .unbound r => s!"No parameter bound for placeholder {r.describe}"
  | .notBoolean v => s!"Expected a boolean condition, got {v.render}"
  | .notNumeric v => s!"Cannot negate {v.render}"
  | .evaluation cause => cause.message

/-- A truth value of three: `none` is unknown. -/
abbrev Truth := Option Bool

namespace Truth

def ofValue : Value → Except ConditionError Truth
  | .boolean b => .ok (some b)
  | .null => .ok none
  | v => .error (.notBoolean v)

def toValue : Truth → Value
  | some b => .boolean b
  | none => .null

end Truth

/-- The operator on three truth values: a deciding operand decides, and otherwise the result is
known only if both operands are. -/
def LogicOp.applyTruth (op : LogicOp) : Truth → Truth → Truth
  | some a, some b => some (op.apply a b)
  | some a, none => if a = op.absorbing then some a else none
  | none, some b => if b = op.absorbing then some b else none
  | none, none => none

structure Env (ρ : Type) where
  column : String → Except ConditionError Value
  bound : ρ → Except ConditionError Value

namespace Condition

variable {ρ : Type}

def eval (env : Env ρ) : Condition ρ → Except ConditionError Value
  | .column name => env.column name
  | .literal value => .ok value
  | .placeholder p => env.bound p
  | .compare op left right => do
    let l ← left.eval env
    let r ← right.eval env
    if l.isNull || r.isNull then return .null
    else return .boolean (op.holds (← (l.compare r).mapError .evaluation))
  | .arith op left right => do
    let l ← left.eval env
    let r ← right.eval env
    (op.apply l r).mapError .evaluation
  | .logic op left right => do
    let l ← Truth.ofValue (← left.eval env)
    if l = some op.absorbing then return .boolean op.absorbing
    else
      let r ← Truth.ofValue (← right.eval env)
      return (op.applyTruth l r).toValue
  | .not operand => do
    let t ← Truth.ofValue (← operand.eval env)
    return Truth.toValue (t.map (!·))
  | .negate operand => do
    match ← operand.eval env with
    | .int32 n => return .int32 (-n)
    | .null => return .null
    | v => throw (.notNumeric v)
  | .isNull negated operand => do
    return .boolean ((← operand.eval env).isNull != negated)

section Equations

variable (env : Env ρ) (left right operand : Condition ρ)

theorem eval_column (name : String) : (column name).eval env = env.column name := rfl

theorem eval_placeholder (p : ρ) : (placeholder p).eval env = env.bound p := rfl

theorem eval_compare (op : CompareOp) : (compare op left right).eval env =
    left.eval env >>= fun l => right.eval env >>= fun r =>
      if l.isNull || r.isNull then pure .null
      else (l.compare r).mapError .evaluation >>= fun o => pure (.boolean (op.holds o)) := rfl

theorem eval_arith (op : ArithOp) : (arith op left right).eval env =
    left.eval env >>= fun l => right.eval env >>= fun r => (op.apply l r).mapError .evaluation :=
    rfl

theorem eval_logic (op : LogicOp) : (logic op left right).eval env =
    left.eval env >>= fun l => Truth.ofValue l >>= fun l =>
      if l = some op.absorbing then pure (.boolean op.absorbing)
      else right.eval env >>= fun r => Truth.ofValue r >>= fun r =>
        pure (op.applyTruth l r).toValue := rfl

theorem eval_not : (not operand).eval env =
    operand.eval env >>= fun v => Truth.ofValue v >>= fun t => pure (Truth.toValue (t.map (!·))) :=
    rfl

theorem eval_negate : (negate operand).eval env =
    operand.eval env >>= fun
      | .int32 n => pure (.int32 (-n))
      | .null => pure .null
      | v => throw (.notNumeric v) := rfl

theorem eval_isNull (negated : Bool) : (isNull negated operand).eval env =
    operand.eval env >>= fun v => pure (.boolean (v.isNull != negated)) := rfl

end Equations

/-- Whether a row is selected: an unknown condition does not select it. -/
def selects (env : Env ρ) (c : Condition ρ) : Except ConditionError Bool := do
  return (← Truth.ofValue (← c.eval env)) == some true

end Condition

def Reference.bind (parameters : List Parameter) (r : Reference) : Except ConditionError Value :=
  let parameter? := match r with
    | .positional index => parameters[index]?
    | .numbered n => parameters.find? (·.placeholder == "$" ++ toString n)
    | .named name => parameters.find? (·.placeholder == "@" ++ name)
  match parameter? with
  | some p => .ok p.value
  | none => .error (.unbound r)

end PredicateSql
