import PredicateSql.Proofs.LoweringRules

/-!
# Parts of an expression

A path leads from an expression to one of its parts (`Expr.at?`), which can be replaced there
(`Expr.replaceAt`). `isClosed_iff_fieldFree`: an expression is closed if no part of it is a field.
-/

namespace PredicateSql

namespace Expr

inductive Turn
  | left
  | right
  | inner
deriving DecidableEq

def child? : Expr → Turn → Option Expr
  | .compare _ left _, .left | .arith _ left _, .left | .logic _ left _, .left => some left
  | .compare _ _ right, .right | .arith _ _ right, .right | .logic _ _ right, .right => some right
  | .not operand, .inner => some operand
  | _, _ => none

/-- The expression with another operand, if it has one there. -/
def setChild : Expr → Turn → Expr → Expr
  | .compare op _ right, .left, new => .compare op new right
  | .compare op left _, .right, new => .compare op left new
  | .arith op _ right, .left, new => .arith op new right
  | .arith op left _, .right, new => .arith op left new
  | .logic op _ right, .left, new => .logic op new right
  | .logic op left _, .right, new => .logic op left new
  | .not _, .inner, new => .not new
  | e, _, _ => e

def at? : Expr → List Turn → Option Expr
  | e, [] => some e
  | e, turn :: path => do (← e.child? turn).at? path

def replaceAt : Expr → List Turn → Expr → Expr
  | _, [], new => new
  | e, turn :: path, new =>
    match e.child? turn with
    | some part => e.setChild turn (part.replaceAt path new)
    | none => e

/-- At the end of the path stands a field of a record, by the name of a parameter. -/
def Accesses (e : Expr) (path : List Turn) (parameter field : String) : Prop :=
  e.at? path = some (.member (.parameter parameter) field)

def FieldFree (e : Expr) : Prop :=
  ∀ path parameter field, ¬ e.Accesses path parameter field

variable {e part : Expr} {turn : Turn} {path : List Turn} {parameter field : String}

theorem accesses_nil :
    e.Accesses [] parameter field ↔ e = .member (.parameter parameter) field := by
  simp [Accesses, at?]

theorem accesses_cons : e.Accesses (turn :: path) parameter field ↔
    ∃ part, e.child? turn = some part ∧ part.Accesses path parameter field := by
  simp [Accesses, at?, Option.bind_eq_some_iff]

theorem isClosed_of_child? (h : e.isClosed = true) (hpart : e.child? turn = some part) :
    part.isClosed = true := by
  cases e with
  | compare op left right | arith op left right | logic op left right =>
    simp only [isClosed_compare, isClosed_arith, isClosed_logic, Bool.and_eq_true] at h
    cases turn <;> cases hpart
    · exact h.1
    · exact h.2
  | not operand =>
    cases turn <;> cases hpart
    exact h
  | _ => cases turn <;> cases hpart

theorem fieldFree_of_isClosed (h : e.isClosed = true) : e.FieldFree := by
  intro path parameter field haccess
  induction path generalizing e with
  | nil =>
    obtain rfl := accesses_nil.1 haccess
    cases h
  | cons turn path ih =>
    obtain ⟨part, hpart, haccess⟩ := accesses_cons.1 haccess
    exact ih (isClosed_of_child? h hpart) haccess

theorem FieldFree.child (h : e.FieldFree) (turn : Turn) (hpart : e.child? turn = some part) :
    part.FieldFree :=
  fun path parameter field haccess =>
    h (turn :: path) parameter field (accesses_cons.2 ⟨part, hpart, haccess⟩)

theorem isClosed_iff_fieldFree : e.isClosed = true ↔ e.FieldFree := by
  refine ⟨fieldFree_of_isClosed, fun h => ?_⟩
  induction e with
  | constant | capture => rfl
  | member owner name =>
    cases owner with
    | parameter parameter => exact absurd rfl (h [] parameter name)
    | capture c => rfl
  | compare op left right ihl ihr | arith op left right ihl ihr | logic op left right ihl ihr =>
    simp only [isClosed_compare, isClosed_arith, isClosed_logic, Bool.and_eq_true]
    exact ⟨ihl (h.child .left rfl), ihr (h.child .right rfl)⟩
  | not operand ih => exact ih (h.child .inner rfl)

end Expr

end PredicateSql
