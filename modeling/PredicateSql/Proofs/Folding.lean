import PredicateSql.Demo
import PredicateSql.Proofs.Subtrees

/-!
# Closed branches

Lowering decides a closed predicate by its own recursion over `AND`, `OR` and `NOT`, and the program
would evaluate it as a whole. Both come to the same truth value or to the same failure, which only
the context in its wording tells apart. So a closed branch that an operator is neutral to can be
left out, and one that decides it decides lowering too.
-/

namespace PredicateSql

/-- The failure without the place where a truth value was needed. -/
def EvalError.withoutContext : EvalError → EvalError
  | .typeMismatch expected actual _ => .typeMismatch expected actual ""
  | .unexpectedNull _ => .unexpectedNull ""
  | e => e

theorem Value.asBool_error {v : Value} {context : String} {x : EvalError}
    (h : v.asBool context = .error x) (context' : String) :
    ∃ y, v.asBool context' = .error y ∧ y.withoutContext = x.withoutContext := by
  cases v with
  | boolean b => cases h
  | null | int32 | string =>
    cases h
    exact ⟨_, rfl, rfl⟩

namespace Expr

variable {left right operand e : Expr} {op : LogicOp} {context : String} {x : EvalError}

theorem evalBool_error (h : e.evalBool context = .error x) (context' : String) :
    ∃ y, e.evalBool context' = .error y ∧ y.withoutContext = x.withoutContext := by
  rcases bind_eq_error.1 h with h | ⟨v, hv, h⟩
  · exact ⟨x, bind_eq_error.2 (.inl h), rfl⟩
  · obtain ⟨y, hy, hsame⟩ := Value.asBool_error h context'
    exact ⟨y, bind_eq_error.2 (.inr ⟨v, hv, hy⟩), hsame⟩

theorem evalBool_logic : (Expr.logic op left right).evalBool context =
    left.evalBool (op.sql ++ " operand") >>= fun b =>
      if b = op.absorbing then .ok b else right.evalBool (op.sql ++ " operand") := by
  simp only [evalBool, eval, bind_assoc]
  refine bind_congr fun l => bind_congr fun b => ?_
  split
  · rfl
  · simp only [bind_assoc, pure_bind]
    exact bind_congr fun r => bind_pure _

theorem evalBool_not :
    (Expr.not operand).evalBool context = (operand.evalBool "NOT operand").map (!·) := by
  simp only [evalBool, eval]
  cases operand.eval with
  | error x => rfl
  | ok v => cases v <;> rfl

theorem fold_error (h : e.evalBool context = .error x) :
    ∃ y, e.fold.result = .error (.evaluation y) ∧ y.withoutContext = x.withoutContext := by
  obtain ⟨y, hy, hsame⟩ := evalBool_error h "predicate"
  exact ⟨y, by rw [result_fold, hy]; rfl, hsame⟩

end Expr

namespace Scope

variable {s : Scope} {op : LogicOp} {left right e c : Expr} {context : String} {b : Bool}

-- ---------------------------------------------------------------------------
-- Closed predicates
-- ---------------------------------------------------------------------------

theorem lower_eq_folded_iff (hclosed : c.isClosed = true) :
    (s.lower c).result = .ok (.folded b) ↔ c.evalBool context = .ok b := by
  constructor
  · intro h
    obtain ⟨b', hb, hc⟩ := (Lowers.of_lower h).folded_of_isClosed hclosed
    cases hb
    exact Expr.evalBool_eq_ok.2 (Expr.evalBool_eq_ok.1 hc)
  · intro h
    exact lower_of_isClosed hclosed (Expr.evalBool_eq_ok.1 h)

theorem lower_error_of_isClosed (hclosed : c.isClosed = true) {x : EvalError}
    (h : c.evalBool context = .error x) :
    ∃ y, (s.lower c).result = .error (.evaluation y) ∧ y.withoutContext = x.withoutContext := by
  induction c generalizing context x with
  | constant _ | capture _ => exact Expr.fold_error h
  | member owner field =>
    cases owner with
    | parameter name => cases hclosed
    | capture c => exact Expr.fold_error h
  | compare op left right | arith op left right =>
    rw [lower, if_pos hclosed]
    exact Expr.fold_error h
  | logic op left right ihl ihr =>
    rw [Expr.isClosed_logic, Bool.and_eq_true] at hclosed
    rw [Expr.evalBool_logic, bind_eq_error] at h
    rcases h with hl | ⟨b, hl, hr⟩
    · obtain ⟨y, hy, hsame⟩ := ihl hclosed.1 hl
      exact ⟨y, by rw [result_lower_logic, hy]; rfl, hsame⟩
    · split at hr
      next => cases hr
      next hb =>
        rw [LogicOp.eq_identity hb] at hl
        rw [lower_logic_identity ((lower_eq_folded_iff hclosed.1).2 hl)]
        exact ihr hclosed.2 hr
  | not operand ih =>
    rw [Expr.evalBool_not, map_eq_error] at h
    obtain ⟨y, hy, hsame⟩ := ih hclosed h
    exact ⟨y, by rw [result_lower_not, hy]; rfl, hsame⟩

-- ---------------------------------------------------------------------------
-- Closed branches
-- ---------------------------------------------------------------------------

theorem lower_logic_identity_right (hr : (s.lower right).result = .ok (.folded op.identity)) :
    (s.lower (.logic op left right)).result = (s.lower left).result := by
  rw [result_lower_logic, hr]
  cases (s.lower left).result with
  | error x => rfl
  | ok l =>
    cases l with
    | folded b =>
      by_cases hb : b = op.absorbing
      · simp [ok_bind, hb, pure, Except.pure]
      · rw [LogicOp.eq_identity hb]
        simp [ok_bind, op.identity_ne_absorbing]
    | filter l => simp [ok_bind, op.identity_ne_absorbing, pure, Except.pure]

theorem lower_logic_absorbing_right (hr : (s.lower right).result = .ok (.folded op.absorbing)) :
    (s.lower (.logic op left right)).result =
      (s.lower left).result.map fun _ => .folded op.absorbing := by
  rw [result_lower_logic, hr]
  cases (s.lower left).result with
  | error x => rfl
  | ok l =>
    cases l with
    | folded b =>
      by_cases hb : b = op.absorbing <;> simp [ok_bind, hb, pure, Except.pure, Except.map]
    | filter l => simp [ok_bind, pure, Except.pure, Except.map]

/-- A closed predicate is never left to the database: lowering decides it as the program does, or
fails as the program does, up to the context of the failure. A closed branch that the operator is
neutral to changes nothing, on either side. One that decides it does so on the left whatever the
other branch is, and on the right if the other branch can be lowered. -/
theorem lower_fieldFree (s : Scope) {c : Expr} (hc : c.FieldFree) :
    (∀ context,
      (∀ b, (s.lower c).result = .ok (.folded b) ↔ c.evalBool context = .ok b) ∧
      ∀ x, c.evalBool context = .error x →
        ∃ y, (s.lower c).result = .error (.evaluation y) ∧ y.withoutContext = x.withoutContext) ∧
    (∀ f, (s.lower c).result ≠ .ok (.filter f)) ∧
    ∀ (op : LogicOp) (e : Expr) (context : String),
      (c.evalBool context = .ok op.identity →
        (s.lower (.logic op e c)).result = (s.lower e).result ∧
        (s.lower (.logic op c e)).result = (s.lower e).result) ∧
      (c.evalBool context = .ok op.absorbing →
        (s.lower (.logic op c e)).result = .ok (.folded op.absorbing) ∧
        (s.lower (.logic op e c)).result =
          (s.lower e).result.map fun _ => .folded op.absorbing) := by
  have hclosed := Expr.isClosed_iff_fieldFree.2 hc
  refine ⟨fun context => ⟨?_, ?_⟩, fun f hf => ?_, fun op e context => ⟨fun h => ?_, fun h => ?_⟩⟩
  · exact fun b => lower_eq_folded_iff hclosed
  · exact fun x => lower_error_of_isClosed hclosed
  · obtain ⟨b, hb, -⟩ := (Lowers.of_lower hf).folded_of_isClosed hclosed
    cases hb
  · have hfolded := (lower_eq_folded_iff (s := s) hclosed).2 h
    exact ⟨lower_logic_identity_right hfolded, lower_logic_identity hfolded⟩
  · have hfolded := (lower_eq_folded_iff (s := s) hclosed).2 h
    exact ⟨lower_logic_absorbing hfolded, lower_logic_absorbing_right hfolded⟩

/-- Beside a closed branch that decides, a field that no column holds fails only if it is looked at
first. -/
theorem lower_fieldFree_unknown :
    let s : Scope := ⟨Demo.testType.table, "TestType", "q"⟩
    let c := Expr.not
      (.logic .and (.constant (.boolean true)) (.compare .lt (Demo.int 2) (Demo.int 1)))
    let e := Expr.member (.parameter "q") "Missing"
    (s.lower (.logic .or c e)).result = .ok (.folded true) ∧
    (s.lower (.logic .or e c)).result = .error (.unknownColumn "TestType" "Missing") := by
  intro s c e
  have hc : c.FieldFree := Expr.isClosed_iff_fieldFree.1 rfl
  have htrue : c.evalBool "predicate" = .ok LogicOp.or.absorbing := rfl
  obtain ⟨hleft, hright⟩ := ((lower_fieldFree s hc).2.2 .or e "predicate").2 htrue
  exact ⟨hleft, hright.trans rfl⟩

end Scope

end PredicateSql
