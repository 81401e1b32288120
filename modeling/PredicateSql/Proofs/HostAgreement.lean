import PredicateSql.Proofs.Reading

/-!
# The program and the database agree

Two evaluators with different rules: the program has two truth values and takes `NULL` for a value
like others, the database has three. Where the program finds a predicate true or false on a row, the
database never finds the opposite, and it finds the same where no compared operand is `NULL`.
-/

namespace PredicateSql

namespace Expr

def comparedOperands : Expr → List Expr
  | .compare _ left right => left :: right :: (left.comparedOperands ++ right.comparedOperands)
  | .arith _ left right | .logic _ left right => left.comparedOperands ++ right.comparedOperands
  | .not operand => operand.comparedOperands
  | _ => []

/-- No operand of a comparison that depends on the row is `NULL` there. -/
def NullFree (s : Scope) (row : List Value) (e : Expr) : Prop :=
  ∀ operand ∈ e.comparedOperands, operand.isClosed = false → operand.valueOn s row ≠ .ok .null

variable {s : Scope} {row : List Value} {left right operand : Expr} {b : Bool}

theorem NullFree.ofLeft {op : LogicOp} (h : (Expr.logic op left right).NullFree s row) :
    left.NullFree s row :=
  fun operand hmem => h operand (List.mem_append_left _ hmem)

theorem NullFree.ofRight {op : LogicOp} (h : (Expr.logic op left right).NullFree s row) :
    right.NullFree s row :=
  fun operand hmem => h operand (List.mem_append_right _ hmem)

theorem valueOn_compare {op : CompareOp} :
    (Expr.compare op left right).valueOn s row = .ok (.boolean b) ↔
      ∃ l r, left.valueOn s row = .ok l ∧ right.valueOn s row = .ok r ∧ op.test l r = .ok b := by
  simp only [valueOn, onRow, eval, bind_eq_ok, pure_eq_ok]
  constructor
  · rintro ⟨l, hl, r, hr, b', hb, heq⟩
    cases heq
    exact ⟨l, r, hl, hr, hb⟩
  · rintro ⟨l, r, hl, hr, hb⟩
    exact ⟨l, hl, r, hr, b, hb, rfl⟩

theorem valueOn_logic {op : LogicOp} :
    (Expr.logic op left right).valueOn s row = .ok (.boolean b) ↔
      left.valueOn s row = .ok (.boolean op.absorbing) ∧ b = op.absorbing ∨
        left.valueOn s row = .ok (.boolean op.identity) ∧ right.valueOn s row = .ok (.boolean b) :=
  eval_logic_eq_ok

theorem valueOn_not :
    (Expr.not operand).valueOn s row = .ok (.boolean b) ↔
      operand.valueOn s row = .ok (.boolean !b) :=
  eval_not_eq_ok

end Expr

-- ---------------------------------------------------------------------------
-- Comparisons
-- ---------------------------------------------------------------------------

namespace CompareOp

variable {op : CompareOp} {l r : Value} {b : Bool}

theorem test_of_truth (h : op.truth l r = .ok (some b)) : op.test l r = .ok b := by
  unfold truth at h
  split at h
  next => cases h
  next hnull =>
    obtain ⟨o, ho, hb⟩ := map_eq_ok.1 h
    cases hb
    simp only [Bool.or_eq_true, not_or, Bool.not_eq_true] at hnull
    simp [test, hnull, ho, Except.map]

/-- Tested for `NULL`, the database has the rule of the program. -/
theorem test_of_null (hop : op.isEquality = true) (h : (l.isNull || r.isNull) = true) :
    op.test l r = .ok ((l.isNull && r.isNull) == (op == .eq)) := by
  cases op with
  | eq | ne => cases hl : l.isNull <;> cases hr : r.isNull <;> simp_all [test]
  | _ => cases hop

end CompareOp

theorem Expr.valueOn_of_comparisonOn {s : Scope} {row : List Value} {op : CompareOp}
    {left right : Expr} {b : Bool} (h : comparisonOn s row op left right = .ok (some b)) :
    (Expr.compare op left right).valueOn s row = .ok (.boolean b) := by
  simp only [comparisonOn, bind_eq_ok] at h
  obtain ⟨l, hl, r, hr, h⟩ := h
  refine valueOn_compare.2 ⟨l, r, hl, hr, ?_⟩
  split at h
  next htest =>
    simp only [Bool.and_eq_true, Bool.or_eq_true] at htest
    have hnull : (l.isNull || r.isNull) = true := by
      rcases htest.2 with ⟨-, hnull⟩ | ⟨-, hnull⟩ <;> simp [hnull]
    cases h
    exact CompareOp.test_of_null htest.1 hnull
  next => exact CompareOp.test_of_truth h

theorem CompareOp.truth_of_ne_null {l r : Value} {type : DataType} (op : CompareOp)
    (hl : l.fits type = true) (hr : r.fits type = true) (hln : l ≠ .null) (hrn : r ≠ .null) :
    ∃ b, op.truth l r = .ok (some b) := by
  obtain ⟨o, ho, -⟩ := Value.compare_of_fits hl hr hln hrn
  exact ⟨_, truth_of_compare ho⟩

theorem Filter.ComparesValue.truthWith_of_ne_null {op : CompareOp} {t : Term} {type : DataType}
    {v l : Value} {f : Filter} (h : Filter.ComparesValue op t type v f) (hl : l.fits type = true)
    (hln : l ≠ .null) : ∃ b, op.truthWith v l = .ok (some b) := by
  cases h with
  | isNull hop | isNotNull hop =>
    subst hop
    exact ⟨_, rfl⟩
  | bound hv hfits =>
    rw [CompareOp.truthWith_of_ne_null hv]
    exact op.truth_of_ne_null hl hfits hln hv

theorem Truth.map_toValue_eq_ok {x : Except EvalError Truth} {b : Bool} :
    (x.map Truth.toValue).mapError ConditionError.evaluation = .ok (.boolean b) ↔
      x = .ok (some b) := by
  rw [mapError_eq_ok, map_eq_ok]
  constructor
  · rintro ⟨t, rfl, ht⟩
    rw [toValue_inj (show t.toValue = Truth.toValue (some b) from ht)]
  · rintro rfl
    exact ⟨some b, rfl, rfl⟩

namespace Scope

variable {s : Scope} {e : Expr} {lowered : Lowered} {row : List Value} {b b' : Bool}

theorem LowersOperand.fits_of_valueOn {t : Term} {type : DataType} {label : Label} {v : Value}
    (h : LowersOperand s e (.term t type label)) (hrow : s.Fits row)
    (hv : e.valueOn s row = .ok v) : v.fits type = true := by
  rcases h.safe hrow with ⟨v', hv', hfits⟩ | ⟨-, hzero⟩
  · cases hv.symm.trans hv'
    exact hfits
  · cases hv.symm.trans hzero

theorem LowersComparison.comparisonOn_of_nullFree {op : CompareOp} {left right : Expr} {f : Filter}
    (h : LowersComparison s op left right f) (hrow : s.Fits row)
    (hnull : (Expr.compare op left right).NullFree s row)
    (hhost : (Expr.compare op left right).valueOn s row = .ok (.boolean b)) :
    ∃ b', Expr.comparisonOn s row op left right = .ok (some b') := by
  obtain ⟨l, r, hl, hr, -⟩ := Expr.valueOn_compare.1 hhost
  have hln : left.isClosed = false → l ≠ .null := by
    rintro hopen rfl
    exact hnull left (by simp [Expr.comparedOperands]) hopen hl
  have hrn : right.isClosed = false → r ≠ .null := by
    rintro hopen rfl
    exact hnull right (by simp [Expr.comparedOperands]) hopen hr
  cases h with
  | value hleft hright hf =>
    obtain ⟨hclosed, hv⟩ := hright.isClosed_value
    rw [Expr.comparisonOn_right hleft.isClosed_term hclosed hv, hl]
    exact hf.truthWith_of_ne_null (hleft.fits_of_valueOn hrow hl) (hln hleft.isClosed_term)
  | flipped hleft hright hf =>
    rw [comparisonOn_flip hleft hright hf hrow, hr]
    exact hf.truthWith_of_ne_null (hright.fits_of_valueOn hrow hr) (hrn hright.isClosed_term)
  | terms hleft hright =>
    rw [Expr.comparisonOn_open hleft.isClosed_term hright.isClosed_term, hl, hr]
    exact op.truth_of_ne_null (hleft.fits_of_valueOn hrow hl) (hright.fits_of_valueOn hrow hr)
      (hln hleft.isClosed_term) (hrn hright.isClosed_term)

theorem LowersComparison.valueOn_of_eval {op : CompareOp} {left right : Expr} {f : Filter}
    (h : LowersComparison s op left right f) (hrow : s.Fits row)
    (heval : f.condition.eval ((StoredTable.ofTable s.table).rowEnv row) = .ok (.boolean b)) :
    (Expr.compare op left right).valueOn s row = .ok (.boolean b) := by
  rw [h.eval hrow, Truth.map_toValue_eq_ok] at heval
  exact Expr.valueOn_of_comparisonOn heval

theorem LowersComparison.eval_of_nullFree {op : CompareOp} {left right : Expr} {f : Filter}
    (h : LowersComparison s op left right f) (hrow : s.Fits row)
    (hnull : (Expr.compare op left right).NullFree s row)
    (hhost : (Expr.compare op left right).valueOn s row = .ok (.boolean b)) :
    f.condition.eval ((StoredTable.ofTable s.table).rowEnv row) = .ok (.boolean b) := by
  obtain ⟨b', hb'⟩ := h.comparisonOn_of_nullFree hrow hnull hhost
  cases hhost.symm.trans (Expr.valueOn_of_comparisonOn hb')
  rw [h.eval hrow, hb']
  rfl

-- ---------------------------------------------------------------------------
-- Predicates
-- ---------------------------------------------------------------------------

theorem eq_of_eval_folded_boolean {env : Env Value}
    (h : (Lowered.folded b).eval env = .ok (.boolean b')) : b = b' :=
  (Option.some.inj (eq_of_eval_folded (t := some b') h)).symm

/-- Where the database gives a predicate a definite truth value and the program gives it one, they
are the same. -/
theorem Lowers.eq_of_valueOn (h : Lowers s e lowered) (hrow : s.Fits row)
    (hhost : e.valueOn s row = .ok (.boolean b))
    (heval : lowered.eval ((StoredTable.ofTable s.table).rowEnv row) = .ok (.boolean b')) :
    b' = b := by
  induction h generalizing b b' with
  | fold hclosed hb =>
    rw [Expr.valueOn_of_isClosed s row hclosed, Expr.evalBool_eq_ok.1 hb] at hhost
    cases eq_of_eval_folded_boolean heval
    cases hhost
    rfl
  | field hc htype =>
    obtain ⟨t, hvalue, hfilter⟩ := hrow.eval_field hc htype
    have hb : t.toValue = .boolean b := Except.ok.inj (hvalue.symm.trans hhost)
    rw [hb] at hfilter
    cases heval.symm.trans hfilter
    rfl
  | comparison h =>
    cases hhost.symm.trans (h.valueOn_of_eval hrow heval)
    rfl
  | @decideLeft op left right hl ih =>
    cases eq_of_eval_folded_boolean heval
    rcases Expr.valueOn_logic.1 hhost with ⟨-, hb⟩ | ⟨hleft, -⟩
    · exact hb.symm
    · exact absurd (ih hleft rfl).symm op.identity_ne_absorbing
  | @dropLeft op left right lowered hl hr ihl ihr =>
    rcases Expr.valueOn_logic.1 hhost with ⟨hleft, -⟩ | ⟨-, hright⟩
    · exact absurd (ihl hleft rfl) op.identity_ne_absorbing
    · exact ihr hright heval
  | decideRight hl hr ihl ihr =>
    cases eq_of_eval_folded_boolean heval
    rcases Expr.valueOn_logic.1 hhost with ⟨-, hb⟩ | ⟨-, hright⟩
    · exact hb.symm
    · exact ihr hright rfl
  | dropRight hl hr ihl ihr =>
    rcases Expr.valueOn_logic.1 hhost with ⟨hleft, rfl⟩ | ⟨hleft, hright⟩
    · exact ihl hleft heval
    · exact (ihl hleft heval).trans (ihr hright rfl)
  | @logic op left right l r hl hr ihl ihr =>
    obtain ⟨x, hx, -⟩ := hl.outcome hrow
    obtain ⟨y, hy, -⟩ := hr.outcome hrow
    have hleft {c : Bool} (h : x = .ok (some c)) : l.condition.eval _ = .ok (.boolean c) :=
      hx.trans (Truth.map_toValue_eq_ok.2 h)
    have hright {c : Bool} (h : y = .ok (some c)) : r.condition.eval _ = .ok (.boolean c) :=
      hy.trans (Truth.map_toValue_eq_ok.2 h)
    have houtcome : op.outcome x y = .ok (some b') :=
      Truth.map_toValue_eq_ok.1 ((Condition.eval_logic_eq op hx hy).symm.trans heval)
    -- The program stops at a deciding left operand, which may be unknown to the database.
    rcases Expr.valueOn_logic.1 hhost with ⟨hl, rfl⟩ | ⟨hl, hr⟩
    · rcases LogicOp.outcome_eq_some houtcome with ⟨-, hb⟩ | ⟨-, hb⟩ | ⟨hx, -⟩
      · exact hb
      · exact hb
      · exact absurd (ihl hl (hleft hx)) op.identity_ne_absorbing
    · rcases LogicOp.outcome_eq_some houtcome with ⟨hx, -⟩ | ⟨hy, rfl⟩ | ⟨-, hy⟩
      · exact absurd (ihl hl (hleft hx)).symm op.identity_ne_absorbing
      · exact ihr hr (hright hy)
      · exact ihr hr (hright hy)
  | notFolded h ih =>
    cases eq_of_eval_folded_boolean heval
    simp [ih (Expr.valueOn_not.1 hhost) rfl]
  | not h ih =>
    obtain ⟨x, hx, -⟩ := h.outcome hrow
    have hnot := Truth.map_toValue_eq_ok.1 ((Condition.eval_not_eq hx).symm.trans heval)
    obtain ⟨t, rfl, ht⟩ := map_eq_ok.1 hnot
    obtain ⟨c, rfl, rfl⟩ := Option.map_eq_some_iff.1 ht
    simp [ih (Expr.valueOn_not.1 hhost) hx]

/-- Where no compared operand is `NULL`, the database gives a predicate the truth value that the
program gives it. -/
theorem Lowers.eval_of_nullFree (h : Lowers s e lowered) (hrow : s.Fits row)
    (hnull : e.NullFree s row) (hhost : e.valueOn s row = .ok (.boolean b)) :
    lowered.eval ((StoredTable.ofTable s.table).rowEnv row) = .ok (.boolean b) := by
  induction h generalizing b with
  | fold hclosed hb =>
    rw [Expr.valueOn_of_isClosed s row hclosed, Expr.evalBool_eq_ok.1 hb] at hhost
    cases hhost
    rfl
  | field hc htype =>
    obtain ⟨t, hvalue, hfilter⟩ := hrow.eval_field hc htype
    have hb : t.toValue = .boolean b := Except.ok.inj (hvalue.symm.trans hhost)
    rwa [hb] at hfilter
  | comparison h => exact h.eval_of_nullFree hrow hnull hhost
  | @decideLeft op left right hl ih =>
    rcases Expr.valueOn_logic.1 hhost with ⟨-, rfl⟩ | ⟨hleft, -⟩
    · rfl
    · have hfolded := eq_of_eval_folded_boolean (ih hnull.ofLeft hleft)
      exact absurd hfolded.symm op.identity_ne_absorbing
  | @dropLeft op left right lowered hl hr ihl ihr =>
    rcases Expr.valueOn_logic.1 hhost with ⟨hleft, -⟩ | ⟨-, hright⟩
    · have hfolded := eq_of_eval_folded_boolean (ihl hnull.ofLeft hleft)
      exact absurd hfolded op.identity_ne_absorbing
    · exact ihr hnull.ofRight hright
  | decideRight hl hr ihl ihr =>
    rcases Expr.valueOn_logic.1 hhost with ⟨-, rfl⟩ | ⟨-, hright⟩
    · rfl
    · exact ihr hnull.ofRight hright
  | dropRight hl hr ihl ihr =>
    rcases Expr.valueOn_logic.1 hhost with ⟨hleft, rfl⟩ | ⟨hleft, hright⟩
    · exact ihl hnull.ofLeft hleft
    · have hfolded := eq_of_eval_folded_boolean (ihr hnull.ofRight hright)
      exact hfolded ▸ ihl hnull.ofLeft hleft
  | @logic op left right l r hl hr ihl ihr =>
    rcases Expr.valueOn_logic.1 hhost with ⟨hleft, rfl⟩ | ⟨hleft, hright⟩
    · obtain ⟨y, hy, -⟩ := hr.outcome hrow
      have hlogic := Condition.eval_logic_eq op (x := .ok (some op.absorbing))
        (ihl hnull.ofLeft hleft) hy
      rwa [LogicOp.outcome_absorbing_left] at hlogic
    · have hlogic := Condition.eval_logic_eq op (x := .ok (some op.identity)) (y := .ok (some b))
        (ihl hnull.ofLeft hleft) (ihr hnull.ofRight hright)
      rwa [LogicOp.outcome_identity_left] at hlogic
  | notFolded h ih =>
    have hfolded := eq_of_eval_folded_boolean (ih hnull (Expr.valueOn_not.1 hhost))
    rw [hfolded, Bool.not_not]
    rfl
  | not h ih =>
    have hnot := Condition.eval_not_eq (x := .ok (some !b)) (ih hnull (Expr.valueOn_not.1 hhost))
    simp only [Except.map, Option.map_some, Bool.not_not] at hnot
    exact hnot

end Scope

-- ---------------------------------------------------------------------------
-- Returned rows
-- ---------------------------------------------------------------------------

theorem Lowered.eval_of_selects {lowered : Lowered} {env : Env Value}
    (h : lowered.selects env = .ok true) : lowered.eval env = .ok (.boolean true) := by
  simp only [selects, bind_eq_ok, pure_eq_ok, beq_iff_eq] at h
  obtain ⟨v, hv, t, ht, rfl⟩ := h
  cases v with
  | boolean b =>
    cases ht
    exact hv
  | _ => cases ht

theorem Database.Holds.mem_of_execute_lowered {s : Scope} {e : Expr} {lowered : Lowered}
    {style : Style} {db : Database} {rows : List (List Value)} {result : List Row}
    (hdb : db.Holds s.table rows) (h : s.Lowers e lowered)
    (ht : s.table.Writable) (hn : s.table.columnNames.Nodup)
    (hs : style.Covers ((s.table.select lowered).render style).parameters.length)
    (hresult : (db.execute ((s.table.select lowered).render style)).result = .ok result) :
    ∀ r ∈ result, s.Fits r.values ∧
      lowered.eval ((StoredTable.ofTable s.table).rowEnv r.values) = .ok (.boolean true) := by
  rw [hdb.execute_lowered h ht hn hs, mapError_eq_ok, map_eq_ok] at hresult
  obtain ⟨kept, hkept, rfl⟩ := hresult
  obtain ⟨-, -, -, -, haccepts⟩ := hdb.stored
  intro r hr
  obtain ⟨row, hrow, rfl⟩ := List.mem_map.1 hr
  obtain ⟨hmem, hselects⟩ := mem_of_filterM hkept row hrow
  exact ⟨⟨hn, haccepts row hmem⟩, Lowered.eval_of_selects hselects⟩

theorem Scope.Lowers.length_parameters_le {s : Scope} {e : Expr} {lowered : Lowered} (style : Style)
    (h : Lowers s e lowered) (ht : s.table.Writable) :
    ((s.table.select lowered).render style).parameters.length ≤ lowered.fragment.values.length := by
  have hbalanced : (s.table.select lowered).Balanced := by
    cases lowered with
    | folded value =>
      cases value <;> simp [Fragment.Balanced, Table.select, Table.selectClause, Lowered.fragment]
    | filter f =>
      have hspells := (f.spells style (h.plain ht.columns)).1
      simp [Fragment.Balanced, Table.select, Table.selectClause, Lowered.fragment, hspells.values,
        hspells.slotCount]
  rw [Fragment.render_of_balanced style _ hbalanced, Style.length_parameters]
  cases lowered with
  | folded value => cases value <;> simp [Table.select, Table.selectClause]
  | filter f => simp [Table.select, Table.selectClause]

/-- The program and the database agree on a lowered predicate up to unknown. Where the program finds
the predicate true or false on an accepted row, a definite truth value of the filter, read back from
its text, is the same, so that no row is returned on which the program finds the predicate false;
and the filter has that truth value where no operand of a comparison that depends on the row is
`NULL`. -/
theorem Scope.valueOn_agrees (s : Scope) (e : Expr) {lowered : Lowered}
    (h : (s.lower e).result = .ok lowered) (hn : s.table.columnNames.Nodup)
    (hplain : ∀ name ∈ s.table.columnNames, Lexer.isPlain name = true) (style : Style)
    (hs : style.Covers lowered.fragment.values.length) (context : String) :
    (∀ row b, s.table.accepts row = true → (e.onRow s row).evalBool context = .ok b →
      (∀ b', lowered.valueOn style s.table row = .ok (.boolean b') → b' = b) ∧
      (e.NullFree s row → lowered.valueOn style s.table row = .ok (.boolean b))) ∧
    (s.table.Writable → ∀ (db : Database) rows result, db.Holds s.table rows →
      (db.execute ((s.table.select lowered).render style)).result = .ok result →
      ∀ r ∈ result, (e.onRow s r.values).evalBool context ≠ .ok false) := by
  have hlowers := Lowers.of_lower h
  refine ⟨fun row b haccepts hhost => ?_, fun ht db rows result hdb hresult r hr hfalse => ?_⟩
  · rw [hlowers.valueOn_eq hplain hs]
    have hhost := Expr.evalBool_eq_ok.1 hhost
    refine ⟨fun b' hb' => ?_, fun hnull => ?_⟩
    · exact hlowers.eq_of_valueOn ⟨hn, haccepts⟩ hhost (mapError_eq_ok.1 hb')
    · exact mapError_eq_ok.2 (hlowers.eval_of_nullFree ⟨hn, haccepts⟩ hnull hhost)
  · obtain ⟨hrow, htrue⟩ := hdb.mem_of_execute_lowered hlowers ht hn
      (hs.mono (hlowers.length_parameters_le style ht)) hresult r hr
    have := hlowers.eq_of_valueOn hrow (Expr.evalBool_eq_ok.1 hfalse) htrue
    cases this

theorem Scope.valueOn_agrees_null :
    (Lowered.filter (.logic .or (.not (.compare .eq (.column "IntColumn") (.bound (.int32 5))))
      (.compare .eq (.column "StringColumn") (.bound (.string "a"))))).valueOn .numbered
        Demo.testType.table [.int32 5, .null, .string "b"] = .ok (.boolean false) ∧
    (∀ b, (Lowered.filter
        (.logic .or (.not (.compare .eq (.column "IntColumn") (.bound (.int32 5))))
          (.compare .eq (.column "StringColumn") (.bound (.string "a"))))).valueOn .numbered
        Demo.testType.table [.null, .null, .string "a"] = .ok (.boolean b) → b = true) ∧
    ((Expr.logic .or (.not (.compare .eq (.member (.parameter "q") "IntColumn") (Demo.int 5)))
      (.compare .eq (.member (.parameter "q") "StringColumn") (.constant (.string "a")))).onRow
        ⟨Demo.testType.table, "TestType", "q"⟩ [.int32 4, .null, .null]).evalBool "predicate" ≠
      .ok false := by
  have h : (lower ⟨Demo.testType.table, "TestType", "q"⟩
      (.logic .or (.not (.compare .eq (.member (.parameter "q") "IntColumn") (Demo.int 5)))
        (.compare .eq (.member (.parameter "q") "StringColumn")
          (.constant (.string "a"))))).result =
      .ok _ := rfl
  obtain ⟨hvalue, hreturned⟩ := valueOn_agrees _ _ h (by decide) (by decide +kernel) .numbered
    (by decide) "predicate"
  refine ⟨(hvalue _ false (by decide) rfl).2 ?_, (hvalue _ true (by decide) rfl).1, ?_⟩
  · intro operand hoperand _ hnull
    fin_cases hoperand <;> cases hnull
  · have ht : Demo.testType.table.Writable := ⟨by decide +kernel, by decide +kernel, by decide⟩
    have hdb : Database.Holds Demo.testType.table _
        [[.null, .boolean true, .null], [.int32 4, .null, .null]] :=
      .insert (.insert (@Database.Holds.create _ .empty _ ⟨rfl, rfl⟩) ⟨rfl, rfl⟩) ⟨rfl, rfl⟩
    refine hreturned ht _ _ [⟨Demo.testType.table.columnNames, [.int32 4, .null, .null]⟩] hdb ?_ _
      List.mem_cons_self
    exact (hdb.execute_lowered (Lowers.of_lower h) ht (by decide) (by decide)).trans rfl

end PredicateSql
