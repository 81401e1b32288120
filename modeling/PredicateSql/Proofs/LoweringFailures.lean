import PredicateSql.Proofs.LoweringRules

/-!
# Failures of lowering by rules

One rule for each way that lowering can fail, beside the rules for its success. An operand is looked
at only when those before it could be lowered, so a rule for a later one has their success among its
premises. `Fails.of_lower`: every failure of lowering comes from one of these rules.
-/

namespace PredicateSql

inductive Filter.RefusesValue (op : CompareOp) (type : DataType) (label : Label) :
    Value → QueryError → Prop
  | ordering : op ≠ .eq → op ≠ .ne →
      RefusesValue op type label .null (.unsupported (.nullOrdering op label))
  | mismatch {v} : v ≠ .null → v.fits type = false → RefusesValue op type label v
      (.evaluation (.typeMismatch type v.type? ("comparison with " ++ label.text)))

theorem Filter.RefusesValue.of_compareValue {op : CompareOp} {t : Term} {type : DataType}
    {label : Label} {v : Value} {x : QueryError}
    (h : compareValue op (.term t type label) v = .error x) :
    RefusesValue op type label v x := by
  cases v with
  | null =>
    cases op with
    | eq | ne => cases h
    | _ =>
      cases h
      exact .ordering (by decide) (by decide)
  | boolean _ | int32 _ | string _ =>
    simp only [compareValue] at h
    split at h
    next => cases h
    next hfits =>
      cases h
      exact .mismatch (by simp) (by simpa using hfits)

def Expr.isLogical : Expr → Bool
  | .compare _ _ _ | .logic _ _ _ | .not _ => true
  | _ => false

namespace Scope

inductive Unresolved (s : Scope) (name field : String) : QueryError → Prop
  | foreign : name ≠ s.parameter →
      Unresolved s name field (.unsupported (.foreignMember name field s.parameter))
  | unknown : name = s.parameter → s.table.column? s.record field = none →
      Unresolved s name field (.unknownColumn s.record field)

inductive FailsOperand (s : Scope) : Expr → QueryError → Prop
  | value {e x} : e.isClosed = true → e.eval = .error x → FailsOperand s e (.evaluation x)
  | field {name field x} : Unresolved s name field x →
      FailsOperand s (.member (.parameter name) field) x
  | truthValue {e} : e.isLogical = true → e.isClosed = false →
      FailsOperand s e (.unsupported (.booleanOperand e))
  | left {op left right x} : (Expr.arith op left right).isClosed = false →
      FailsOperand s left x → FailsOperand s (.arith op left right) x
  | right {op left right l x} : (Expr.arith op left right).isClosed = false →
      LowersOperand s left l → FailsOperand s right x → FailsOperand s (.arith op left right) x
  | types {op left right l r} : (Expr.arith op left right).isClosed = false →
      LowersOperand s left l → LowersOperand s right r → op.operandType? l.type? r.type? = none →
      FailsOperand s (.arith op left right) (.evaluation (.invalidOperands op.sql l.type? r.type?))

inductive FailsComparison (s : Scope) (op : CompareOp) (left right : Expr) : QueryError → Prop
  | left {x} : FailsOperand s left x → FailsComparison s op left right x
  | right {l x} : LowersOperand s left l → FailsOperand s right x →
      FailsComparison s op left right x
  | value {t type label v x} : LowersOperand s left (.term t type label) →
      LowersOperand s right (.value v) → Filter.RefusesValue op type label v x →
      FailsComparison s op left right x
  | flipped {t type label v x} : LowersOperand s left (.value v) →
      LowersOperand s right (.term t type label) → Filter.RefusesValue op.flip type label v x →
      FailsComparison s op left right x
  | types {l r type type' label label'} : LowersOperand s left (.term l type label) →
      LowersOperand s right (.term r type' label') → type ≠ type' → FailsComparison s op left right
        (.evaluation (.invalidOperands op.sql (some type) (some type')))

inductive Fails (s : Scope) : Expr → QueryError → Prop
  | fold {e x} : e.isClosed = true → e.evalBool "predicate" = .error x → Fails s e (.evaluation x)
  | field {name field x} : Unresolved s name field x → Fails s (.member (.parameter name) field) x
  | fieldType {field c} : s.table.column? s.record field = some c → c.type ≠ .boolean →
      Fails s (.member (.parameter s.parameter) field)
        (.evaluation (.typeMismatch .boolean (some c.type) ("predicate on column " ++ c.name)))
  | comparison {op left right x} : (Expr.compare op left right).isClosed = false →
      FailsComparison s op left right x → Fails s (.compare op left right) x
  | arith {op left right} : (Expr.arith op left right).isClosed = false →
      Fails s (.arith op left right) (.unsupported (.arithmeticPredicate (.arith op left right)))
  | left {op left right x} : Fails s left x → Fails s (.logic op left right) x
  | right {op left right l x} : Lowers s left l → l ≠ .folded op.absorbing → Fails s right x →
      Fails s (.logic op left right) x
  | not {operand x} : Fails s operand x → Fails s (.not operand) x

variable {s : Scope} {e : Expr} {x : QueryError}

-- ---------------------------------------------------------------------------
-- Operands
-- ---------------------------------------------------------------------------

theorem Unresolved.of_resolve {name field : String}
    (h : s.resolve (.parameter name) field = .error x) : Unresolved s name field x := by
  simp only [resolve] at h
  split at h
  next hname =>
    split at h
    next => cases h
    next hcolumn =>
      cases h
      exact .unknown hname hcolumn
  next hname =>
    cases h
    exact .foreign hname

theorem FailsOperand.of_hostValue (hclosed : e.isClosed = true) (h : e.hostValue = .error x) :
    FailsOperand s e x := by
  obtain ⟨y, hy, rfl⟩ := mapError_eq_error.1 (map_eq_error.1 h)
  exact .value hclosed hy

theorem FailsOperand.of_truthValue (hlogical : e.isLogical = true)
    (h : (if e.isClosed then e.hostValue else .error (.unsupported (.booleanOperand e))) =
      .error x) : FailsOperand s e x := by
  split at h
  next hclosed => exact .of_hostValue hclosed h
  next hopen =>
    cases h
    exact .truthValue hlogical (by simpa using hopen)

theorem FailsOperand.of_operand (h : s.operand e = .error x) : FailsOperand s e x := by
  induction e generalizing x with
  | member owner field =>
    cases owner with
    | parameter name =>
      rw [operand_field] at h
      rcases bind_eq_error.1 h with h | ⟨c, -, h⟩
      · exact .field (.of_resolve h)
      · cases h
    | capture c => exact .of_hostValue rfl h
  | arith op left right ihl ihr =>
    rw [operand] at h
    split at h
    next hclosed => exact .of_hostValue hclosed h
    next hopen =>
      rw [Bool.not_eq_true] at hopen
      rcases bind_eq_error.1 h with h | ⟨l, hl, h⟩
      · exact .left hopen (ihl h)
      have hl := LowersOperand.of_operand hl
      rcases bind_eq_error.1 h with h | ⟨r, hr, h⟩
      · exact .right hopen hl (ihr h)
      split at h
      next => cases h
      next htype =>
        cases h
        exact .types hopen hl (.of_operand hr) htype
  | constant _ | capture _ => exact .of_hostValue rfl h
  | compare _ _ _ | logic _ _ _ | not _ => exact .of_truthValue rfl h

-- ---------------------------------------------------------------------------
-- Predicates
-- ---------------------------------------------------------------------------

theorem Fails.of_fold (hclosed : e.isClosed = true) (h : e.fold.result = .error x) :
    Fails s e x := by
  rw [Expr.result_fold] at h
  obtain ⟨y, hy, rfl⟩ := mapError_eq_error.1 (map_eq_error.1 h)
  exact .fold hclosed hy

theorem Fails.of_booleanField {name field : String}
    (h : s.booleanField (.parameter name) field = .error x) :
    Fails s (.member (.parameter name) field) x := by
  rcases bind_eq_error.1 h with h | ⟨c, hc, h⟩
  · exact .field (.of_resolve h)
  obtain ⟨hname, hcolumn⟩ := resolve_eq_ok.1 hc
  split at h
  next => cases h
  next htype =>
    cases h
    subst hname
    exact .fieldType hcolumn htype

theorem FailsComparison.of_comparison {op : CompareOp} {left right : Expr}
    (hopen : (Expr.compare op left right).isClosed = false)
    (h : (s.comparison op left right).result = .error x) : FailsComparison s op left right x := by
  simp only [comparison, Run.result_bind, Run.result_ofExcept] at h
  rcases bind_eq_error.1 h with h | ⟨l, hl, h⟩
  · exact .left (.of_operand h)
  have hl := LowersOperand.of_operand hl
  rcases bind_eq_error.1 h with h | ⟨r, hr, h⟩
  · exact .right hl (.of_operand h)
  have hr := LowersOperand.of_operand hr
  cases l with
  | value l =>
    cases r with
    | value r =>
      -- two values do not meet here: the comparison would be closed
      rw [Expr.isClosed_compare, hl.isClosed_value.1, hr.isClosed_value.1] at hopen
      cases hopen
    | term t type label =>
      simp only [Run.result_bind, Run.result_ofExcept] at h
      rcases bind_eq_error.1 h with h | ⟨f, -, h⟩
      · exact .flipped hl hr (.of_compareValue h)
      · cases h
  | term t type label =>
    cases r with
    | value v =>
      simp only [Run.result_bind, Run.result_ofExcept] at h
      rcases bind_eq_error.1 h with h | ⟨f, -, h⟩
      · exact .value hl hr (.of_compareValue h)
      · cases h
    | term t' type' label' =>
      simp only at h
      split at h
      next => cases h
      next htypes =>
        cases h
        exact .types hl hr (by simpa [CompareOp.comparable] using htypes)

theorem Fails.of_lower (h : (s.lower e).result = .error x) : Fails s e x := by
  induction e generalizing x with
  | constant v => exact .of_fold rfl h
  | capture c => exact .of_fold rfl h
  | member owner field =>
    cases owner with
    | capture c => exact .of_fold rfl h
    | parameter name =>
      simp only [lower_field, Run.result_bind, Run.result_ofExcept] at h
      rcases bind_eq_error.1 h with h | ⟨f, -, h⟩
      · exact .of_booleanField h
      · cases h
  | compare op left right =>
    rw [lower] at h
    split at h
    next hclosed => exact .of_fold hclosed h
    next hopen =>
      rw [Bool.not_eq_true] at hopen
      exact .comparison hopen (.of_comparison hopen h)
  | arith op left right =>
    rw [lower] at h
    split at h
    next hclosed => exact .of_fold hclosed h
    next hopen =>
      cases h
      exact .arith (by simpa using hopen)
  | logic op left right ihl ihr =>
    rw [result_lower_logic] at h
    rcases bind_eq_error.1 h with h | ⟨l, hl, h⟩
    · exact .left (ihl h)
    have hl := Lowers.of_lower hl
    cases l with
    | folded value =>
      simp only at h
      split at h
      next => cases h
      next hvalue => exact .right hl (by simpa using hvalue) (ihr h)
    | filter l =>
      rcases bind_eq_error.1 h with h | ⟨r, -, h⟩
      · exact .right hl (by simp) (ihr h)
      cases r with
      | folded value =>
        simp only at h
        split at h <;> cases h
      | filter r => cases h
  | not operand ih =>
    rw [result_lower_not, map_eq_error] at h
    exact .not (ih h)

end Scope

end PredicateSql
