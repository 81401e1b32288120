import PredicateSql.Demo
import PredicateSql.Proofs.LoweringFailures
import PredicateSql.Proofs.Subtrees

/-!
# What dependence says

`dependence` is exact: it tells by the parts of an expression whether it is closed, made of fields
alone, or neither. Lowering asks it before it evaluates or resolves anything. Its guards for what
cannot be there are therefore never reached: no closed operand turns out to have a field, no capture
is looked up as a column, and no comparison is left with two values.
-/

namespace PredicateSql

namespace Expr

def isLeaf : Expr → Bool
  | .constant _ | .member _ _ | .capture _ => true
  | _ => false

/-- All that stands at the leaves are fields, and no part is arithmetic. -/
structure FieldsOnly (e : Expr) : Prop where
  leaf : ∀ path part, e.at? path = some part → part.isLeaf = true →
    ∃ parameter field, part = .member (.parameter parameter) field
  arith : ∀ path op left right, e.at? path ≠ some (.arith op left right)

variable {e part : Expr} {turn : Turn} {path : List Turn}

-- ---------------------------------------------------------------------------
-- The three kinds of expressions
-- ---------------------------------------------------------------------------

theorem at?_cons (hpart : e.child? turn = some part) (path : List Turn) :
    e.at? (turn :: path) = part.at? path := by
  simp [at?, hpart]

theorem exists_child_of_at? {part' : Expr} (h : e.at? (turn :: path) = some part') :
    ∃ part, e.child? turn = some part ∧ part.at? path = some part' := by
  simpa [at?, Option.bind_eq_some_iff] using h

theorem FieldsOnly.child (h : e.FieldsOnly) (turn : Turn) (hpart : e.child? turn = some part) :
    part.FieldsOnly where
  leaf path part' hpart' := h.leaf (turn :: path) part' (by rw [at?_cons hpart, hpart'])
  arith path op left right hpart' :=
    h.arith (turn :: path) op left right (by rw [at?_cons hpart, hpart'])

/-- Above its operands an expression has only itself to answer for. -/
theorem fieldsOnly_iff_children (hleaf : e.isLeaf = false)
    (harith : ∀ op left right, e ≠ .arith op left right) :
    e.FieldsOnly ↔ ∀ turn part, e.child? turn = some part → part.FieldsOnly := by
  refine ⟨fun h turn part hpart => h.child turn hpart, fun h => ⟨?_, ?_⟩⟩
  · intro path part hpart hpartleaf
    cases path with
    | nil =>
      cases hpart
      rw [hleaf] at hpartleaf
      cases hpartleaf
    | cons turn path =>
      obtain ⟨child, hchild, hpart⟩ := exists_child_of_at? hpart
      exact (h turn child hchild).leaf path part hpart hpartleaf
  · intro path op left right hpart
    cases path with
    | nil => exact harith op left right (by simpa [at?] using hpart)
    | cons turn path =>
      obtain ⟨child, hchild, hpart⟩ := exists_child_of_at? hpart
      exact (h turn child hchild).arith path op left right hpart

theorem fieldsOnly_field (parameter field : String) :
    (Expr.member (.parameter parameter) field).FieldsOnly where
  leaf path part hpart _ := by
    cases path with
    | nil =>
      cases hpart
      exact ⟨parameter, field, rfl⟩
    | cons turn path => cases turn <;> cases hpart
  arith path op left right hpart := by
    cases path with
    | nil => cases hpart
    | cons turn path => cases turn <;> cases hpart

theorem not_fieldsOnly_of_leaf (hleaf : e.isLeaf = true)
    (hfield : ∀ parameter field, e ≠ .member (.parameter parameter) field) : ¬ e.FieldsOnly := by
  intro h
  obtain ⟨parameter, field, he⟩ := h.leaf [] e rfl hleaf
  exact hfield parameter field he

theorem combine_eq_columns {l r : Dependence} :
    l.combine r = .columns ↔ l = .columns ∧ r = .columns := by
  cases l <;> cases r <;> simp [Dependence.combine]

theorem dependence_eq_columns_iff : e.dependence = .columns ↔ e.FieldsOnly := by
  induction e with
  | constant | capture =>
    exact iff_of_false (by simp [dependence]) (not_fieldsOnly_of_leaf rfl (by simp))
  | member owner name =>
    cases owner with
    | parameter parameter => exact ⟨fun _ => fieldsOnly_field parameter name, fun _ => rfl⟩
    | capture c =>
      exact iff_of_false (by simp [dependence]) (not_fieldsOnly_of_leaf rfl (by simp))
  | compare op left right ihl ihr | logic op left right ihl ihr =>
    rw [fieldsOnly_iff_children rfl (by simp), dependence, combine_eq_columns, ihl, ihr]
    refine ⟨?_, fun h => ⟨h .left left rfl, h .right right rfl⟩⟩
    rintro ⟨hl, hr⟩ turn part hpart
    cases turn <;> cases hpart
    · exact hl
    · exact hr
  | arith op left right =>
    refine ⟨fun h => ?_, fun h => absurd rfl (h.arith [] op left right)⟩
    simp only [dependence] at h
    cases hl : left.dependence <;> cases hr : right.dependence <;>
      simp [hl, hr, Dependence.combineArith] at h
  | not operand ih =>
    rw [fieldsOnly_iff_children rfl (by simp), dependence, ih]
    refine ⟨fun h turn part hpart => ?_, fun h => h .inner operand rfl⟩
    cases turn <;> cases hpart
    exact h

theorem dependence_eq_closed_iff : e.dependence = .closed ↔ e.FieldFree := by
  rw [← isClosed_iff_fieldFree, isClosed, beq_iff_eq]

theorem dependence_eq_mixed_iff : e.dependence = .mixed ↔ ¬ e.FieldFree ∧ ¬ e.FieldsOnly := by
  rw [← dependence_eq_closed_iff, ← dependence_eq_columns_iff]
  cases e.dependence <;> simp

end Expr

-- ---------------------------------------------------------------------------
-- Evaluation meets no field
-- ---------------------------------------------------------------------------

section Operators

variable {parameter field : String}

theorem Value.asBool_ne_notClosed (context : String) (v : Value) :
    v.asBool context ≠ .error (.notClosed parameter field) := by
  cases v <;> simp [asBool]

theorem CompareOp.test_ne_notClosed (op : CompareOp) (l r : Value) :
    op.test l r ≠ .error (.notClosed parameter field) := by
  cases l <;> cases r <;> simp [test, Value.isNull, Value.compare, Except.map]

theorem ArithOp.applyInt_ne_notClosed (op : ArithOp) (a b : Int32) :
    op.applyInt a b ≠ .error (.notClosed parameter field) := by
  cases op with
  | add | sub | mul => simp [applyInt]
  | div | mod =>
    simp only [applyInt]
    split <;> simp

theorem ArithOp.apply_ne_notClosed (op : ArithOp) (l r : Value) :
    op.apply l r ≠ .error (.notClosed parameter field) := by
  intro h
  cases l <;> cases r
  case int32.int32 a b => exact op.applyInt_ne_notClosed a b (map_eq_error.1 h)
  case string.string a b =>
    simp only [apply] at h
    split at h <;> cases h
  all_goals cases h

end Operators

namespace Expr

variable {e part : Expr} {parameter field : String}

theorem exists_accesses_of_child (turn : Turn) (hpart : e.child? turn = some part)
    (h : ∃ path, part.Accesses path parameter field) : ∃ path, e.Accesses path parameter field := by
  obtain ⟨path, hpath⟩ := h
  exact ⟨turn :: path, accesses_cons.2 ⟨part, hpart, hpath⟩⟩

theorem exists_accesses_of_eval (h : e.eval = .error (.notClosed parameter field)) :
    ∃ path, e.Accesses path parameter field := by
  induction e with
  | constant v => cases h
  | capture c =>
    simp only [eval, Capture.value] at h
    split at h <;> cases h
  | member owner name =>
    cases owner with
    | parameter name =>
      cases h
      exact ⟨[], rfl⟩
    | capture c =>
      simp only [eval, Capture.member] at h
      split at h <;> cases h
  | compare op left right ihl ihr =>
    rcases bind_eq_error.1 h with h | ⟨l, -, h⟩
    · exact exists_accesses_of_child .left rfl (ihl h)
    rcases bind_eq_error.1 h with h | ⟨r, -, h⟩
    · exact exists_accesses_of_child .right rfl (ihr h)
    rcases bind_eq_error.1 h with h | ⟨b, -, h⟩
    · exact absurd h (op.test_ne_notClosed l r)
    · cases h
  | arith op left right ihl ihr =>
    rcases bind_eq_error.1 h with h | ⟨l, -, h⟩
    · exact exists_accesses_of_child .left rfl (ihl h)
    rcases bind_eq_error.1 h with h | ⟨r, -, h⟩
    · exact exists_accesses_of_child .right rfl (ihr h)
    · exact absurd h (op.apply_ne_notClosed l r)
  | logic op left right ihl ihr =>
    rcases bind_eq_error.1 h with h | ⟨l, -, h⟩
    · exact exists_accesses_of_child .left rfl (ihl h)
    rcases bind_eq_error.1 h with h | ⟨b, -, h⟩
    · exact absurd h (l.asBool_ne_notClosed _)
    split at h
    next => cases h
    next =>
      rcases bind_eq_error.1 h with h | ⟨r, -, h⟩
      · exact exists_accesses_of_child .right rfl (ihr h)
      rcases bind_eq_error.1 h with h | ⟨b, -, h⟩
      · exact absurd h (r.asBool_ne_notClosed _)
      · cases h
  | not operand ih =>
    rcases bind_eq_error.1 h with h | ⟨v, -, h⟩
    · exact exists_accesses_of_child .inner rfl (ih h)
    rcases bind_eq_error.1 h with h | ⟨b, -, h⟩
    · exact absurd h (v.asBool_ne_notClosed _)
    · cases h

theorem eval_ne_notClosed (h : e.isClosed = true) :
    e.eval ≠ .error (.notClosed parameter field) := by
  intro heval
  obtain ⟨path, hpath⟩ := exists_accesses_of_eval heval
  exact fieldFree_of_isClosed h path parameter field hpath

theorem evalBool_ne_notClosed (h : e.isClosed = true) (context : String) :
    e.evalBool context ≠ .error (.notClosed parameter field) := by
  intro heval
  rcases bind_eq_error.1 heval with heval | ⟨v, -, heval⟩
  · exact eval_ne_notClosed h heval
  · exact v.asBool_ne_notClosed context heval

end Expr

-- ---------------------------------------------------------------------------
-- Lowering reaches none of its guards
-- ---------------------------------------------------------------------------

/-- The failures by which lowering would report a mistake of its own. -/
inductive QueryError.Internal : QueryError → Prop
  | notClosed {parameter field} : Internal (.evaluation (.notClosed parameter field))
  | hostComparison : Internal (.unsupported .hostComparison)
  | capturedMember {owner member} : Internal (.unsupported (.capturedMember owner member))

theorem Filter.RefusesValue.not_internal {op : CompareOp} {type : DataType} {label : Label}
    {v : Value} {x : QueryError} (h : RefusesValue op type label v x) : ¬ x.Internal := by
  rintro hx
  cases h <;> cases hx

namespace Scope

variable {s : Scope} {e : Expr} {x : QueryError}

theorem Unresolved.not_internal {name field : String} (h : Unresolved s name field x) :
    ¬ x.Internal := by
  rintro hx
  cases h <;> cases hx

theorem FailsOperand.not_internal (h : FailsOperand s e x) : ¬ x.Internal := by
  induction h with
  | value hclosed heval =>
    rintro ⟨⟩
    exact Expr.eval_ne_notClosed hclosed heval
  | field h => exact h.not_internal
  | truthValue | types => rintro ⟨⟩
  | left _ _ ih | right _ _ _ ih => exact ih

theorem FailsComparison.not_internal {op : CompareOp} {left right : Expr}
    (h : FailsComparison s op left right x) : ¬ x.Internal := by
  cases h with
  | left h | right _ h => exact h.not_internal
  | value _ _ h | flipped _ _ h => exact h.not_internal
  | types => rintro ⟨⟩

theorem Fails.not_internal (h : Fails s e x) : ¬ x.Internal := by
  induction h with
  | fold hclosed heval =>
    rintro ⟨⟩
    exact Expr.evalBool_ne_notClosed hclosed _ heval
  | field h => exact h.not_internal
  | comparison _ h => exact h.not_internal
  | fieldType | arith => rintro ⟨⟩
  | left _ ih | right _ _ _ ih | not _ ih => exact ih

theorem isClosed_of_values {op : CompareOp} {left right : Expr} {v w : Value}
    (hl : s.operand left = .ok (.value v)) (hr : s.operand right = .ok (.value w)) :
    (Expr.compare op left right).isClosed = true := by
  rw [Expr.isClosed_compare, (LowersOperand.of_operand hl).isClosed_value.1,
    (LowersOperand.of_operand hr).isClosed_value.1]
  rfl

end Scope

/-- An expression is closed if it has no field, of columns alone if its leaves are fields and it has
no arithmetic, and mixed otherwise. Evaluation meets no field in a closed expression. Lowering never
fails by one of its own guards, whatever the expression and the scope are. In particular, a
comparison that it leaves to the database has at most one operand with a value. -/
theorem Expr.dependence_exact (e : Expr) :
    (e.dependence = .closed ↔ e.FieldFree) ∧
    (e.dependence = .columns ↔ e.FieldsOnly) ∧
    (e.dependence = .mixed ↔ ¬ e.FieldFree ∧ ¬ e.FieldsOnly) ∧
    (e.dependence = .closed → ∀ parameter field, e.eval ≠ .error (.notClosed parameter field)) ∧
    ∀ s : Scope,
      (∀ x, (s.lower e).result = .error x → ¬ x.Internal) ∧
      ∀ path op left right, e.at? path = some (.compare op left right) →
        (Expr.compare op left right).isClosed = false →
        ∀ v w, ¬ (s.operand left = .ok (.value v) ∧ s.operand right = .ok (.value w)) := by
  refine ⟨dependence_eq_closed_iff, dependence_eq_columns_iff, dependence_eq_mixed_iff,
    fun hclosed parameter field => ?_,
    fun s => ⟨fun x h => (Scope.Fails.of_lower h).not_internal, ?_⟩⟩
  · exact eval_ne_notClosed (beq_iff_eq.2 hclosed)
  · rintro path op left right - hopen v w ⟨hl, hr⟩
    rw [Scope.isClosed_of_values hl hr] at hopen
    cases hopen

/-- A member that a captured object does not have is a failure of evaluation, within the comparison
with a field that it stands in as much as on its own. -/
theorem Expr.dependence_exact_captured :
    let c : Capture := ⟨"limits", .object [("low", .int32 1)]⟩
    let sum := Expr.arith .add (.member (.capture c) "low") (.member (.capture c) "high")
    let e := Expr.not (.compare .lt (.member (.parameter "q") "IntColumn") sum)
    let s : Scope := ⟨Demo.testType.table, "TestType", "q"⟩
    sum.FieldFree ∧ (¬ e.FieldFree ∧ ¬ e.FieldsOnly) ∧
    (∀ parameter field, sum.eval ≠ .error (.notClosed parameter field)) ∧
    (∃ x, (s.lower e).result = .error x ∧ ¬ x.Internal) ∧
    ∀ v w, ¬ (s.operand (.member (.parameter "q") "IntColumn") = .ok (.value v) ∧
      s.operand sum = .ok (.value w)) := by
  intro c sum e s
  obtain ⟨hfree, -, -, heval, -⟩ := dependence_exact sum
  obtain ⟨-, -, hmixed, -, hlower⟩ := dependence_exact e
  obtain ⟨hfails, hoperands⟩ := hlower s
  exact ⟨hfree.1 rfl, hmixed.1 rfl, heval rfl, ⟨_, rfl, hfails _ rfl⟩,
    hoperands [.inner] .lt _ _ rfl rfl⟩

end PredicateSql
