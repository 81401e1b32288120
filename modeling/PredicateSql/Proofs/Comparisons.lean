import PredicateSql.Proofs.RowValues

/-!
# Comparisons on a row

The truth of a comparison in three-valued logic, where equality with a closed `NULL` is a test for
`NULL` (`Expr.comparisonOn`). `LowersComparison.eval`: it is what the filter of the comparison
gives.
-/

namespace PredicateSql

/-- Whether the operator holds of two values: unknown where either is `NULL`. -/
def CompareOp.truth (op : CompareOp) (left right : Value) : Except EvalError Truth :=
  if left.isNull || right.isNull then .ok none
  else (left.compare right).map fun o => some (op.holds o)

def Expr.comparisonOn (s : Scope) (row : List Value) (op : CompareOp) (left right : Expr) :
    Except EvalError Truth := do
  let l ← left.valueOn s row
  let r ← right.valueOn s row
  if op.isEquality && (left.isClosed && l.isNull || right.isClosed && r.isNull) then
    return some ((l.isNull && r.isNull) == (op == .eq))
  else op.truth l r

-- ---------------------------------------------------------------------------
-- Values of one type
-- ---------------------------------------------------------------------------

theorem Value.compare_of_type? {l r : Value} {type : DataType} (hl : l.type? = some type)
    (hr : r.type? = some type) : ∃ o, l.compare r = .ok o ∧ r.compare l = .ok o.swap := by
  cases type with
  | boolean =>
    obtain ⟨a, rfl⟩ := boolean_of_type? hl
    obtain ⟨b, rfl⟩ := boolean_of_type? hr
    exact ⟨_, rfl, congrArg Except.ok Std.OrientedCmp.eq_swap⟩
  | int32 =>
    obtain ⟨a, rfl⟩ := int32_of_type? hl
    obtain ⟨b, rfl⟩ := int32_of_type? hr
    exact ⟨_, rfl, congrArg Except.ok Std.OrientedCmp.eq_swap⟩
  | varchar =>
    obtain ⟨a, rfl⟩ := string_of_type? hl
    obtain ⟨b, rfl⟩ := string_of_type? hr
    exact ⟨_, rfl, congrArg Except.ok Std.OrientedCmp.eq_swap⟩

theorem Value.compare_of_fits {l r : Value} {type : DataType} (hl : l.fits type = true)
    (hr : r.fits type = true) (hln : l ≠ .null) (hrn : r ≠ .null) :
    ∃ o, l.compare r = .ok o ∧ r.compare l = .ok o.swap :=
  compare_of_type? (type?_of_fits hl hln) (type?_of_fits hr hrn)

namespace CompareOp

variable {op : CompareOp} {l r : Value} {type : DataType}

theorem truth_null (h : l = .null ∨ r = .null) : op.truth l r = .ok none := by
  rcases h with rfl | rfl
  · rfl
  · simp [truth, Value.isNull]

theorem truth_of_compare {o : Ordering} (h : l.compare r = .ok o) :
    op.truth l r = .ok (some (op.holds o)) := by
  cases l <;> cases r <;> simp_all [truth, Value.isNull, Value.compare, Except.map]

theorem truth_of_fits (op : CompareOp) (hl : l.fits type = true) (hr : r.fits type = true) :
    ∃ t, op.truth l r = .ok t ∧ op.flip.truth r l = .ok t := by
  by_cases hnull : l = .null ∨ r = .null
  · exact ⟨none, truth_null hnull, truth_null hnull.symm⟩
  · obtain ⟨hln, hrn⟩ := not_or.1 hnull
    obtain ⟨o, ho, ho'⟩ := Value.compare_of_fits hl hr hln hrn
    refine ⟨some (op.holds o), truth_of_compare ho, ?_⟩
    rw [truth_of_compare ho', holds_flip, Ordering.swap_swap]

/-- The truth of a comparison with a closed value, which is a test where that is `NULL`. -/
def truthWith (op : CompareOp) (v l : Value) : Except EvalError Truth :=
  if op.isEquality && v.isNull then .ok (some (l.isNull == (op == .eq))) else op.truth l v

theorem truthWith_of_ne_null {v : Value} (hv : v ≠ .null) (l : Value) :
    op.truthWith v l = op.truth l v := by
  cases v with
  | null => exact absurd rfl hv
  | _ => simp [truthWith, Value.isNull]

end CompareOp

-- ---------------------------------------------------------------------------
-- What filters give
-- ---------------------------------------------------------------------------

section Eval

variable {env : Env Value} {left right : Condition Value} {x y : Except EvalError Value}

theorem Condition.eval_compare_eq (op : CompareOp) (hl : left.eval env = x.mapError .evaluation)
    (hr : right.eval env = y.mapError .evaluation) :
    (Condition.compare op left right).eval env =
      ((x >>= fun l => y >>= fun r => op.truth l r).map Truth.toValue).mapError .evaluation := by
  rw [eval_compare, hl, hr]
  cases x with
  | error e => rfl
  | ok l =>
    cases y with
    | error e => rfl
    | ok r =>
      simp only [Except.mapError, bind, Except.bind, CompareOp.truth]
      split
      · rfl
      · cases l.compare r <;> rfl

theorem Condition.eval_isNull_eq (negated : Bool) (h : left.eval env = x.mapError .evaluation) :
    (Condition.isNull negated left).eval env =
      ((x >>= fun l => .ok (some (l.isNull != negated))).map Truth.toValue).mapError
        .evaluation := by
  rw [eval_isNull, h]
  cases x <;> rfl

theorem Filter.ComparesValue.eval {op : CompareOp} {t : Term} {type : DataType} {v : Value}
    {f : Filter} (h : Filter.ComparesValue op t type v f)
    (ht : t.condition.eval env = x.mapError .evaluation) (hbound : env.bound = .ok) :
    f.condition.eval env = ((x >>= op.truthWith v).map Truth.toValue).mapError .evaluation := by
  cases h with
  | isNull hop =>
    subst hop
    have htest : (fun l : Value => Except.ok (some (l.isNull != false))) =
        CompareOp.truthWith .eq .null := by
      funext l
      cases l <;> rfl
    rw [Filter.condition, Condition.eval_isNull_eq false ht, htest]
  | isNotNull hop =>
    subst hop
    have htest : (fun l : Value => Except.ok (some (l.isNull != true))) =
        CompareOp.truthWith .ne .null := by
      funext l
      cases l <;> rfl
    rw [Filter.condition, Condition.eval_isNull_eq true ht, htest]
  | bound hv _ =>
    have hv' : (Condition.placeholder v).eval env = (Except.ok v).mapError .evaluation := by
      rw [Condition.eval_placeholder, hbound]
      rfl
    have htruth : op.truthWith v = fun l => op.truth l v :=
      funext (CompareOp.truthWith_of_ne_null hv)
    rw [Filter.condition, Term.condition, Condition.eval_compare_eq op ht hv', htruth]
    rfl

end Eval

-- ---------------------------------------------------------------------------
-- Lowered comparisons
-- ---------------------------------------------------------------------------

namespace Expr

variable {s : Scope} {row : List Value} {op : CompareOp} {left right : Expr} {v : Value}

theorem comparisonOn_right (hl : left.isClosed = false) (hr : right.isClosed = true)
    (hv : right.eval = .ok v) :
    comparisonOn s row op left right = left.valueOn s row >>= op.truthWith v := by
  simp only [comparisonOn, valueOn_of_isClosed s row hr, hl, hr, hv]
  cases left.valueOn s row with
  | error e => rfl
  | ok l =>
    cases v <;> simp [CompareOp.truthWith, Value.isNull, bind, Except.bind, pure, Except.pure]

theorem comparisonOn_left (hl : left.isClosed = true) (hr : right.isClosed = false)
    (hv : left.eval = .ok v) :
    comparisonOn s row op left right = right.valueOn s row >>= fun r =>
      if op.isEquality && v.isNull then .ok (some (r.isNull == (op == .eq))) else op.truth v r := by
  simp only [comparisonOn, valueOn_of_isClosed s row hl, hl, hr, hv]
  cases right.valueOn s row with
  | error e => rfl
  | ok r => cases v <;> simp [Value.isNull, bind, Except.bind, pure, Except.pure]

theorem comparisonOn_open (hl : left.isClosed = false) (hr : right.isClosed = false) :
    comparisonOn s row op left right =
      left.valueOn s row >>= fun l => right.valueOn s row >>= fun r => op.truth l r := by
  simp [comparisonOn, hl, hr]

end Expr

namespace Filter.ComparesValue

variable {op : CompareOp} {t : Term} {type : DataType} {v l r : Value} {f : Filter}

theorem truthWith_ok (h : Filter.ComparesValue op t type v f) (hl : l.fits type = true) :
    ∃ truth, op.truthWith v l = .ok truth := by
  cases h with
  | isNull hop | isNotNull hop =>
    subst hop
    exact ⟨_, rfl⟩
  | bound hv hfits =>
    obtain ⟨truth, htruth, -⟩ := op.truth_of_fits hl hfits
    exact ⟨truth, (CompareOp.truthWith_of_ne_null hv l).trans htruth⟩

theorem truthWith_flip (h : Filter.ComparesValue op.flip t type v f) (hr : r.fits type = true) :
    op.flip.truthWith v r =
      if op.isEquality && v.isNull then .ok (some (r.isNull == (op == .eq))) else op.truth v r := by
  cases h with
  | isNull hop =>
    obtain rfl : op = .eq := by
      rw [← op.flip_flip, hop]
      rfl
    rfl
  | isNotNull hop =>
    obtain rfl : op = .ne := by
      rw [← op.flip_flip, hop]
      rfl
    rfl
  | bound hv hfits =>
    have hnull : v.isNull = false := by
      cases v with
      | null => exact absurd rfl hv
      | _ => rfl
    obtain ⟨truth, htruth, htruth'⟩ := op.truth_of_fits hfits hr
    rw [CompareOp.truthWith_of_ne_null hv, htruth', hnull, Bool.and_false, htruth]
    rfl

end Filter.ComparesValue

namespace Scope

variable {s : Scope} {row : List Value} {op : CompareOp} {left right : Expr} {f : Filter}

theorem comparisonOn_flip {v : Value} {t : Term} {type : DataType} {label : Label}
    (hl : LowersOperand s left (.value v)) (hr : LowersOperand s right (.term t type label))
    (hf : Filter.ComparesValue op.flip t type v f) (hrow : s.Fits row) :
    Expr.comparisonOn s row op left right = right.valueOn s row >>= op.flip.truthWith v := by
  obtain ⟨hclosed, hv⟩ := hl.isClosed_value
  rw [Expr.comparisonOn_left hclosed hr.isClosed_term hv]
  rcases hr.safe hrow with ⟨r, hvalue, hfits⟩ | ⟨-, hzero⟩
  · rw [hvalue]
    exact (hf.truthWith_flip hfits).symm
  · rw [hzero]
    rfl

theorem LowersComparison.eval (h : LowersComparison s op left right f) (hrow : s.Fits row) :
    f.condition.eval ((StoredTable.ofTable s.table).rowEnv row) =
      ((Expr.comparisonOn s row op left right).map Truth.toValue).mapError .evaluation := by
  cases h with
  | value hl hr hf =>
    obtain ⟨hclosed, hv⟩ := hr.isClosed_value
    rw [Expr.comparisonOn_right hl.isClosed_term hclosed hv]
    exact hf.eval (hl.eval hrow) rfl
  | flipped hl hr hf =>
    rw [comparisonOn_flip hl hr hf hrow]
    exact hf.eval (hr.eval hrow) rfl
  | terms hl hr =>
    rw [Expr.comparisonOn_open hl.isClosed_term hr.isClosed_term]
    exact Condition.eval_compare_eq op (hl.eval hrow) (hr.eval hrow)

theorem LowersComparison.safe (h : LowersComparison s op left right f) (hrow : s.Fits row) :
    Safe (left.divides || right.divides) (Expr.comparisonOn s row op left right) fun _ => True := by
  cases h with
  | value hl hr hf =>
    obtain ⟨hclosed, hv⟩ := hr.isClosed_value
    rw [Expr.comparisonOn_right hl.isClosed_term hclosed hv]
    refine (hl.safe hrow).bind fun l hfits => ?_
    obtain ⟨truth, htruth⟩ := hf.truthWith_ok hfits
    exact .inl ⟨truth, htruth, trivial⟩
  | flipped hl hr hf =>
    rw [comparisonOn_flip hl hr hf hrow, Bool.or_comm]
    refine (hr.safe hrow).bind fun r hfits => ?_
    obtain ⟨truth, htruth⟩ := hf.truthWith_ok hfits
    exact .inl ⟨truth, htruth, trivial⟩
  | terms hl hr =>
    rw [Expr.comparisonOn_open hl.isClosed_term hr.isClosed_term]
    refine Safe.mono ((hl.safe hrow).bind fun l hl => (hr.safe hrow).bind fun r hr =>
      (?_ : Safe false _ _)) (by simp)
    obtain ⟨truth, htruth, -⟩ := op.truth_of_fits hl hr
    exact .inl ⟨truth, htruth, trivial⟩

theorem Fits.eval_field (hrow : s.Fits row) {field : String} {c : Column}
    (hc : s.table.column? s.record field = some c) (htype : c.type = .boolean) :
    ∃ t : Truth, (Expr.member (.parameter s.parameter) field).valueOn s row = .ok t.toValue ∧
      (Filter.compare .eq (.column c.name) (.bound (.boolean true))).condition.eval
        ((StoredTable.ofTable s.table).rowEnv row) = .ok t.toValue := by
  obtain ⟨v, hv, hfits, hcolumn⟩ := hrow.valueOn_field hc
  rw [htype] at hfits
  obtain ⟨t, rfl⟩ : ∃ t : Truth, v = t.toValue := by
    cases v with
    | null => exact ⟨none, rfl⟩
    | boolean b => exact ⟨some b, rfl⟩
    | int32 _ | string _ => cases hfits
  refine ⟨t, hv, ?_⟩
  rw [Filter.condition, Term.condition, Term.condition, Condition.eval_compare,
    Condition.eval_column, hcolumn]
  rcases t with _ | _ | _ <;> rfl

end Scope

end PredicateSql
