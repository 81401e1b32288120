import PredicateSql.Proofs.TypeSafety

/-!
# Mirrored comparisons

A comparison means the same with its operands swapped and its operator turned round: to the program,
to the compiler, which turns a value on the left to the right, and to the database. Below all three
is the order of values (`Value.compare_swap`, `Value.totallyOrdered`). Turning a comparison round
twice gives it back, so that each lemma states one direction only.
-/

namespace PredicateSql

-- ---------------------------------------------------------------------------
-- The order of values
-- ---------------------------------------------------------------------------

namespace Value

theorem compare_swap {l r : Value} {o : Ordering} (h : l.compare r = .ok o) :
    r.compare l = .ok o.swap := by
  obtain ⟨type, hl, hr⟩ : ∃ type, l.type? = some type ∧ r.type? = some type := by
    cases l <;> cases r <;> cases h <;> exact ⟨_, rfl, rfl⟩
  obtain ⟨o', ho, hswap⟩ := compare_of_type? hl hr
  cases h.symm.trans ho
  exact hswap

theorem compare_swap_iff {l r : Value} {o : Ordering} :
    l.compare r = .ok o ↔ r.compare l = .ok o.swap := by
  refine ⟨compare_swap, fun h => ?_⟩
  simpa using compare_swap h

/-- A value of the type, which `NULL` is not. -/
@[ext]
structure OfType (type : DataType) where
  value : Value
  type?_eq : value.type? = some type

/-- The values of the type all compare, as a total order of them. -/
def TotallyOrdered (type : DataType) : Prop :=
  ∃ cmp : OfType type → OfType type → Ordering,
    (∀ l r : OfType type, l.value.compare r.value = .ok (cmp l r)) ∧
    Std.TransCmp cmp ∧ Std.LawfulEqCmp cmp

theorem totallyOrdered_of_ord {α : Type} [Ord α] [Std.TransOrd α] [Std.LawfulEqOrd α]
    {type : DataType} {make : α → Value}
    (hmake : ∀ v : Value, v.type? = some type → ∃ a, v = make a)
    (hcompare : ∀ a b, (make a).compare (make b) = .ok (Ord.compare a b)) :
    TotallyOrdered type := by
  choose made hmade using fun v : OfType type => hmake v.value v.type?_eq
  refine ⟨compareOn made, fun l r => ?_, inferInstance, ⟨?_⟩⟩
  · rw [hmade l, hmade r]
    exact hcompare _ _
  · intro l r h
    have heq : made l = made r := Std.LawfulEqCmp.eq_of_compare h
    apply OfType.ext
    rw [hmade l, hmade r, heq]

theorem totallyOrdered (type : DataType) : TotallyOrdered type := by
  cases type with
  | boolean => exact totallyOrdered_of_ord (fun _ => boolean_of_type?) fun _ _ => rfl
  | int32 => exact totallyOrdered_of_ord (fun _ => int32_of_type?) fun _ _ => rfl
  | varchar => exact totallyOrdered_of_ord (fun _ => string_of_type?) fun _ _ => rfl

end Value

-- ---------------------------------------------------------------------------
-- Comparisons of values
-- ---------------------------------------------------------------------------

namespace CompareOp

variable {op : CompareOp} {l r : Value}

theorem truth_flip {t : Truth} (h : op.truth l r = .ok t) : op.flip.truth r l = .ok t := by
  by_cases hnull : l = .null ∨ r = .null
  · rw [truth_null hnull] at h
    rw [truth_null hnull.symm, h]
  · obtain ⟨o, ho, rfl⟩ : ∃ o, l.compare r = .ok o ∧ some (op.holds o) = t := by
      cases l <;> cases r <;> simp_all [truth, Value.isNull, map_eq_ok]
    rw [truth_of_compare (Value.compare_swap ho), holds_flip, Ordering.swap_swap]

theorem test_flip {b : Bool} (h : op.test l r = .ok b) : op.flip.test r l = .ok b := by
  have heq : (op.flip == .eq) = (op == .eq) := by cases op <;> rfl
  have hne : (op.flip == .ne) = (op == .ne) := by cases op <;> rfl
  unfold test at h ⊢
  cases hl : l.isNull with
  | true => cases hr : r.isNull <;> simp_all
  | false =>
    cases hr : r.isNull with
    | true => simp_all
    | false =>
      simp only [hl, hr, map_eq_ok] at h ⊢
      obtain ⟨o, ho, rfl⟩ := h
      exact ⟨o.swap, Value.compare_swap ho, by rw [holds_flip, Ordering.swap_swap]⟩

end CompareOp

theorem Expr.eval_flip {op : CompareOp} {left right : Expr} {v : Value}
    (h : (Expr.compare op left right).eval = .ok v) :
    (Expr.compare op.flip right left).eval = .ok v := by
  simp only [eval, bind_eq_ok, pure_eq_ok] at h ⊢
  obtain ⟨l, hl, r, hr, b, hb, rfl⟩ := h
  exact ⟨r, hr, l, hl, b, CompareOp.test_flip hb, rfl⟩

namespace Condition

variable {ρ : Type} {env : Env ρ} {op : CompareOp} {left right : Condition ρ} {v : Value}

theorem eval_compare_eq_ok : (compare op left right).eval env = .ok v ↔
    ∃ l, left.eval env = .ok l ∧ ∃ r, right.eval env = .ok r ∧
      ∃ t, op.truth l r = .ok t ∧ t.toValue = v := by
  simp only [eval_compare, bind_eq_ok]
  refine exists_congr fun l => and_congr_right fun _ => exists_congr fun r =>
    and_congr_right fun _ => ?_
  unfold CompareOp.truth
  split
  · simp [pure_eq_ok, Truth.toValue]
  · simp only [bind_eq_ok, mapError_eq_ok, map_eq_ok, pure_eq_ok, exists_exists_and_eq_and]
    rfl

theorem eval_flip (h : (compare op left right).eval env = .ok v) :
    (compare op.flip right left).eval env = .ok v := by
  obtain ⟨l, hl, r, hr, t, ht, hv⟩ := eval_compare_eq_ok.1 h
  exact eval_compare_eq_ok.2 ⟨r, hr, l, hl, t, CompareOp.truth_flip ht, hv⟩

end Condition

-- ---------------------------------------------------------------------------
-- Lowered comparisons
-- ---------------------------------------------------------------------------

namespace Scope

variable {s : Scope} {op : CompareOp} {left right : Expr} {f : Filter} {lowered : Lowered}

theorem LowersComparison.flip (h : LowersComparison s op left right f)
    (hclosed : left.isClosed = true ∨ right.isClosed = true) :
    LowersComparison s op.flip right left f := by
  cases h with
  | value hl hr hf =>
    rw [← op.flip_flip] at hf
    exact .flipped hr hl hf
  | flipped hl hr hf => exact .value hr hl hf
  | terms hl hr =>
    rw [hl.isClosed_term, hr.isClosed_term] at hclosed
    simp at hclosed

theorem Lowers.flip (h : Lowers s (.compare op left right) lowered)
    (hclosed : left.isClosed = true ∨ right.isClosed = true) :
    Lowers s (.compare op.flip right left) lowered := by
  cases h with
  | fold hboth hb =>
    rw [Expr.isClosed_compare, Bool.and_comm, ← Expr.isClosed_compare op.flip] at hboth
    rw [Expr.evalBool_eq_ok] at hb
    exact .fold hboth (Expr.evalBool_eq_ok.2 (Expr.eval_flip hb))
  | comparison h => exact .comparison (h.flip hclosed)

theorem Lowers.flip_terms (h : Lowers s (.compare op left right) lowered)
    (hl : left.isClosed = false) (hr : right.isClosed = false) :
    ∃ l r, lowered = .filter (.compare op l r) ∧
      Lowers s (.compare op.flip right left) (.filter (.compare op.flip r l)) := by
  cases h with
  | fold hboth _ => simp [Expr.isClosed_compare, hl] at hboth
  | comparison h =>
    cases h with
    | value _ hvalue _ => simp [hvalue.isClosed_value] at hr
    | flipped hvalue _ _ => simp [hvalue.isClosed_value] at hl
    | terms hl hr => exact ⟨_, _, rfl, .comparison (.terms hr hl)⟩

theorem Lowers.valueOn_flip {lowered' : Lowered} {style : Style}
    (h : Lowers s (.compare op left right) lowered)
    (h' : Lowers s (.compare op.flip right left) lowered')
    (hl : left.isClosed = false) (hr : right.isClosed = false)
    (hplain : ∀ name ∈ s.table.columnNames, Lexer.isPlain name = true)
    (hs : style.Covers lowered.fragment.values.length) (row : List Value) :
    (∃ t : Truth, lowered.valueOn style s.table row = .ok t.toValue ∧
      lowered'.valueOn style s.table row = .ok t.toValue) ∨
    ∃ e e', lowered.valueOn style s.table row = .error e ∧
      lowered'.valueOn style s.table row = .error e' := by
  obtain ⟨l, r, rfl, hterms⟩ := h.flip_terms hl hr
  obtain rfl : lowered' = .filter (.compare op.flip r l) :=
    Except.ok.inj (h'.lower.symm.trans hterms.lower)
  have hlength : (Filter.compare op.flip r l).fragment.values.length =
      (Filter.compare op l r).fragment.values.length := by
    simp [Filter.fragment, Nat.add_comm]
  rw [h.valueOn_eq hplain hs, h'.valueOn_eq hplain (hlength ▸ hs)]
  simp only [Lowered.eval, Filter.condition]
  generalize (StoredTable.ofTable s.table).rowEnv row = env
  cases heval : (Condition.compare op l.condition r.condition).eval env with
  | ok v =>
    obtain ⟨_, -, _, -, t, -, rfl⟩ := Condition.eval_compare_eq_ok.1 heval
    rw [Condition.eval_flip heval]
    exact .inl ⟨t, rfl, rfl⟩
  | error e =>
    cases heval' : (Condition.compare op.flip r.condition l.condition).eval env with
    | ok v =>
      have hback := Condition.eval_flip heval'
      rw [CompareOp.flip_flip, heval] at hback
      cases hback
    | error e' => exact .inr ⟨_, _, rfl, rfl⟩

end Scope

/-- A comparison and the one with its operands swapped and its operator turned round mean the same.
The program evaluates both to one value. With a closed operand both lower to the same; with none,
one lowers where the other does, and on every row both filters have one truth value or both fail.
All this rests on the order of values: swapping them reverses it, and it is total for each type. -/
theorem Expr.compare_flip (op : CompareOp) (left right : Expr) :
    (∀ v, (Expr.compare op left right).eval = .ok v ↔
      (Expr.compare op.flip right left).eval = .ok v) ∧
    (∀ s : Scope,
      (left.isClosed = true ∨ right.isClosed = true → ∀ lowered,
        (s.lower (.compare op left right)).result = .ok lowered ↔
          (s.lower (.compare op.flip right left)).result = .ok lowered) ∧
      (left.isClosed = false → right.isClosed = false →
        ((∃ lowered, (s.lower (.compare op left right)).result = .ok lowered) ↔
          ∃ lowered, (s.lower (.compare op.flip right left)).result = .ok lowered) ∧
        ∀ lowered lowered', (s.lower (.compare op left right)).result = .ok lowered →
          (s.lower (.compare op.flip right left)).result = .ok lowered' →
          (∀ name ∈ s.table.columnNames, Lexer.isPlain name = true) →
          ∀ style : Style, style.Covers lowered.fragment.values.length → ∀ row : List Value,
            (∃ t : Truth, lowered.valueOn style s.table row = .ok t.toValue ∧
              lowered'.valueOn style s.table row = .ok t.toValue) ∨
            ∃ e e', lowered.valueOn style s.table row = .error e ∧
              lowered'.valueOn style s.table row = .error e')) ∧
    (∀ (l r : Value) (o : Ordering), l.compare r = .ok o ↔ r.compare l = .ok o.swap) ∧
    ∀ type, Value.TotallyOrdered type := by
  refine ⟨fun v => ⟨eval_flip, fun h => ?_⟩,
    fun s => ⟨fun hclosed lowered => ⟨fun h => ?_, fun h => ?_⟩, fun hl hr => ⟨⟨?_, ?_⟩, ?_⟩⟩,
    fun _ _ _ => Value.compare_swap_iff, Value.totallyOrdered⟩
  · simpa using eval_flip h
  · exact ((Scope.Lowers.of_lower h).flip hclosed).lower
  · simpa using ((Scope.Lowers.of_lower h).flip hclosed.symm).lower
  · rintro ⟨lowered, h⟩
    obtain ⟨_, _, -, hterms⟩ := (Scope.Lowers.of_lower h).flip_terms hl hr
    exact ⟨_, hterms.lower⟩
  · rintro ⟨lowered, h⟩
    obtain ⟨_, _, -, hterms⟩ := (Scope.Lowers.of_lower h).flip_terms hr hl
    rw [op.flip_flip] at hterms
    exact ⟨_, hterms.lower⟩
  · intro lowered lowered' h h' hplain style hs row
    exact (Scope.Lowers.of_lower h).valueOn_flip (.of_lower h') hl hr hplain hs row

/-- A test for `NULL` from either side, and a division by zero on either side. -/
theorem Expr.compare_flip_mixed :
    (Scope.lower ⟨Demo.testType.table, "TestType", "q"⟩ (.compare .eq (.constant .null)
      (.member (.parameter "q") "IntColumn"))).result =
        .ok (.filter (.isNull (.column "IntColumn"))) ∧
    ((∃ t : Truth,
      (Lowered.filter (.compare .lt (.column "IntColumn")
        (.arith .div (.bound (.int32 6)) (.column "IntColumn")))).valueOn .numbered
          Demo.testType.table [.int32 0, .null, .null] = .ok t.toValue ∧
      (Lowered.filter (.compare .gt (.arith .div (.bound (.int32 6)) (.column "IntColumn"))
        (.column "IntColumn"))).valueOn .numbered
          Demo.testType.table [.int32 0, .null, .null] = .ok t.toValue) ∨
    ∃ e e',
      (Lowered.filter (.compare .lt (.column "IntColumn")
        (.arith .div (.bound (.int32 6)) (.column "IntColumn")))).valueOn .numbered
          Demo.testType.table [.int32 0, .null, .null] = .error e ∧
      (Lowered.filter (.compare .gt (.arith .div (.bound (.int32 6)) (.column "IntColumn"))
        (.column "IntColumn"))).valueOn .numbered
          Demo.testType.table [.int32 0, .null, .null] = .error e') :=
  ⟨(((compare_flip .eq (.constant .null) (.member (.parameter "q") "IntColumn")).2.1 _).1
      (.inl rfl) _).2 rfl,
    (((compare_flip .lt (.member (.parameter "q") "IntColumn")
      (.arith .div (Demo.int 6) (.member (.parameter "q") "IntColumn"))).2.1
        ⟨Demo.testType.table, "TestType", "q"⟩).2 rfl rfl).2 _ _ rfl rfl (by decide +kernel)
        .numbered
          (by decide) _⟩

end PredicateSql
