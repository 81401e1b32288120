import PredicateSql.Proofs.Store
import PredicateSql.Proofs.TypeSafety

/-!
# The meaning of a query

`Expr.reading` is what a predicate says of a row, read off the predicate itself in three-valued
logic. A prepared statement, executed on a database that holds the table, returns the rows on which
the reading is true, in the order in which they were inserted, as long as it divides nowhere by
zero.
-/

namespace PredicateSql

/-- What a value says as a predicate: nothing is known of `NULL`. -/
def Value.truth : Value → Except EvalError Truth
  | .null => .ok none
  | v => (v.asBool "predicate").map some

namespace Expr

/-- What the predicate says of a row. A closed part counts by its own truth value, a field by the
row's, and a comparison by its operands' values; a deciding left operand stops `AND` and `OR`. -/
def reading (s : Scope) (row : List Value) (e : Expr) : Except EvalError Truth :=
  if e.isClosed then (e.evalBool "predicate").map some
  else
    match e with
    | .compare op left right => comparisonOn s row op left right
    | .logic op left right => op.outcome (left.reading s row) (right.reading s row)
    | .not operand => (operand.reading s row).map (Option.map (!·))
    | e => e.valueOn s row >>= Value.truth

def isTrueOn (s : Scope) (e : Expr) (row : List Value) : Bool :=
  match e.reading s row with
  | .ok (some true) => true
  | _ => false

variable {s : Scope} {row : List Value}

theorem isTrueOn_of_reading {e : Expr} {b : Bool} (h : e.reading s row = .ok (some b)) :
    e.isTrueOn s row = b := by
  rw [isTrueOn, h]
  cases b <;> rfl

theorem reading_of_isClosed {e : Expr} (h : e.isClosed = true) :
    e.reading s row = (e.evalBool "predicate").map some := by
  unfold reading
  rw [if_pos h]

theorem reading_field (name field : String) :
    (Expr.member (.parameter name) field).reading s row =
      (Expr.member (.parameter name) field).valueOn s row >>= Value.truth := by
  unfold reading
  rfl

theorem reading_compare {op : CompareOp} {left right : Expr}
    (h : (Expr.compare op left right).isClosed = false) :
    (Expr.compare op left right).reading s row = comparisonOn s row op left right := by
  rw [reading, h]
  rfl

theorem reading_logic {op : LogicOp} {left right : Expr}
    (h : (Expr.logic op left right).isClosed = false) :
    (Expr.logic op left right).reading s row =
      op.outcome (left.reading s row) (right.reading s row) := by
  rw [reading, h]
  rfl

theorem reading_not {operand : Expr} (h : (Expr.not operand).isClosed = false) :
    (Expr.not operand).reading s row = (operand.reading s row).map (Option.map (!·)) := by
  rw [reading, h]
  rfl

end Expr

-- ---------------------------------------------------------------------------
-- Operands that decide or do not matter
-- ---------------------------------------------------------------------------

namespace LogicOp

variable (op : LogicOp) (t : Truth) (y : Except EvalError Truth) (e : EvalError)

@[simp] theorem outcome_error_left : op.outcome (.error e) y = .error e := rfl

theorem outcome_ok (t t' : Truth) : ∃ t'', op.outcome (.ok t) (.ok t') = .ok t'' := by
  simp only [outcome_eq, ok_bind]
  split <;> exact ⟨_, rfl⟩

theorem outcome_some (a b : Bool) :
    op.outcome (.ok (some a)) (.ok (some b)) = .ok (some (op.apply a b)) := by
  cases op <;> cases a <;> cases b <;> rfl

theorem outcome_error_right {t : Truth} (h : t ≠ some op.absorbing) :
    op.outcome (.ok t) (.error e) = .error e := by
  simp [outcome_eq, h, bind, Except.bind]

@[simp] theorem outcome_absorbing_left :
    op.outcome (.ok (some op.absorbing)) y = .ok (some op.absorbing) := by
  simp [outcome_eq, ok_bind, pure, Except.pure]

@[simp] theorem outcome_identity_left : op.outcome (.ok (some op.identity)) y = y := by
  cases y with
  | error e => cases op <;> rfl
  | ok r => cases op <;> rcases r with _ | _ | _ <;> rfl

@[simp] theorem outcome_absorbing_right :
    op.outcome (.ok t) (.ok (some op.absorbing)) = .ok (some op.absorbing) := by
  cases op <;> rcases t with _ | _ | _ <;> rfl

@[simp] theorem outcome_identity_right : op.outcome (.ok t) (.ok (some op.identity)) = .ok t := by
  cases op <;> rcases t with _ | _ | _ <;> rfl

/-- A definite outcome comes from a deciding operand on either side, or from the right one where the
left one does not matter. -/
theorem outcome_eq_some {op : LogicOp} {x y : Except EvalError Truth} {b : Bool}
    (h : op.outcome x y = .ok (some b)) :
    x = .ok (some op.absorbing) ∧ b = op.absorbing ∨
      y = .ok (some op.absorbing) ∧ b = op.absorbing ∨
      x = .ok (some op.identity) ∧ y = .ok (some b) := by
  rw [outcome_eq] at h
  obtain ⟨l, rfl, hrest⟩ := bind_eq_ok.1 h
  by_cases hl : l = some op.absorbing
  · subst hl
    rw [if_pos rfl] at hrest
    cases hrest
    exact .inl ⟨rfl, rfl⟩
  · rw [if_neg hl, bind_eq_ok] at hrest
    obtain ⟨r, rfl, hb⟩ := hrest
    rw [pure_eq_ok] at hb
    cases op <;> rcases l with _ | _ | _ <;> rcases r with _ | _ | _ <;>
      simp_all [applyTruth, apply, absorbing, identity]

end LogicOp

theorem Truth.toValue_inj {t t' : Truth} (h : t.toValue = t'.toValue) : t = t' := by
  have := congrArg ofValue h
  simpa using this

namespace Scope

variable {s : Scope} {e : Expr} {lowered : Lowered} {row : List Value}

theorem eq_of_eval_folded {env : Env Value} {b : Bool} {t : Truth}
    (h : (Lowered.folded b).eval env = .ok t.toValue) : t = some b :=
  Truth.toValue_inj (Except.ok.inj h).symm

def Agrees (reading : Except EvalError Truth) (value : Except ConditionError Value) : Prop :=
  reading = .error .divisionByZero ∨ ∃ t, reading = .ok t ∧ value = .ok t.toValue

theorem Lowers.agrees_of_open (h : Lowers s e lowered) {env : Env Value}
    (hopen : e.isClosed = false → Agrees (e.reading s row) (lowered.eval env)) :
    Agrees (e.reading s row) (lowered.eval env) := by
  cases hclosed : e.isClosed with
  | false => exact hopen hclosed
  | true =>
    obtain ⟨b, rfl, hb⟩ := h.folded_of_isClosed hclosed
    rw [Expr.reading_of_isClosed hclosed, hb]
    exact .inr ⟨some b, rfl, rfl⟩

theorem LowersComparison.agrees {op : CompareOp} {left right : Expr} {f : Filter}
    (h : LowersComparison s op left right f) (hrow : s.Fits row) :
    Agrees ((Expr.compare op left right).reading s row)
      (f.condition.eval ((StoredTable.ofTable s.table).rowEnv row)) := by
  rw [Expr.reading_compare h.isClosed, h.eval hrow]
  rcases h.safe hrow with ⟨t, ht, -⟩ | ⟨-, hzero⟩
  · exact .inr ⟨t, ht, by rw [ht]; rfl⟩
  · exact .inl hzero

/-- A deciding left operand hides what the right one does, and a division by zero in it too. -/
theorem Agrees.outcome {op : LogicOp} {x y : Except EvalError Truth}
    {left right value : Except ConditionError Value} (hx : Agrees x left) (hy : Agrees y right)
    (hstop : left = .ok (.boolean op.absorbing) → value = .ok (.boolean op.absorbing))
    (hboth : ∀ t t' : Truth, left = .ok t.toValue → right = .ok t'.toValue →
      Agrees (op.outcome (.ok t) (.ok t')) value) : Agrees (op.outcome x y) value := by
  rcases hx with rfl | ⟨t, rfl, hl⟩
  · exact .inl rfl
  · by_cases ht : t = some op.absorbing
    · subst ht
      rw [LogicOp.outcome_absorbing_left]
      exact .inr ⟨_, rfl, hstop hl⟩
    · rcases hy with rfl | ⟨t', rfl, hr⟩
      · exact .inl (op.outcome_error_right _ ht)
      · exact hboth t t' hl hr

theorem Lowers.agrees (h : Lowers s e lowered) (hrow : s.Fits row) :
    Agrees (e.reading s row) (lowered.eval ((StoredTable.ofTable s.table).rowEnv row)) := by
  induction h with
  | @fold e b hclosed hb =>
    rw [Expr.reading_of_isClosed hclosed, hb]
    exact .inr ⟨some b, rfl, rfl⟩
  | field hc htype =>
    obtain ⟨t, hvalue, hfilter⟩ := hrow.eval_field hc htype
    refine .inr ⟨t, ?_, hfilter⟩
    rw [Expr.reading_field, hvalue]
    rcases t with _ | b <;> rfl
  | comparison h => exact h.agrees hrow
  | decideLeft hl ih =>
    refine (Lowers.decideLeft hl).agrees_of_open fun hopen => ?_
    rw [Expr.reading_logic hopen]
    rcases ih with hzero | ⟨t, ht, heval⟩
    · exact .inl (by rw [hzero, LogicOp.outcome_error_left])
    · cases eq_of_eval_folded heval
      exact .inr ⟨_, by rw [ht, LogicOp.outcome_absorbing_left], rfl⟩
  | dropLeft hl hr ihl ihr =>
    refine (Lowers.dropLeft hl hr).agrees_of_open fun hopen => ?_
    rw [Expr.reading_logic hopen]
    rcases ihl with hzero | ⟨t, ht, heval⟩
    · exact .inl (by rw [hzero, LogicOp.outcome_error_left])
    · cases eq_of_eval_folded heval
      rw [ht, LogicOp.outcome_identity_left]
      exact ihr
  | @decideRight op left right l hl hr ihl ihr =>
    refine (Lowers.decideRight hl hr).agrees_of_open fun hopen => ?_
    rw [Expr.reading_logic hopen]
    -- The left operand is not evaluated any more, and its reading may divide by zero.
    refine ihl.outcome ihr (fun _ => rfl) fun t t' _ hr => ?_
    cases eq_of_eval_folded hr
    exact .inr ⟨_, op.outcome_absorbing_right t, rfl⟩
  | @dropRight op left right l hl hr ihl ihr =>
    refine (Lowers.dropRight hl hr).agrees_of_open fun hopen => ?_
    rw [Expr.reading_logic hopen]
    refine ihl.outcome ihr id fun t t' hl hr => ?_
    cases eq_of_eval_folded hr
    exact .inr ⟨t, op.outcome_identity_right t, hl⟩
  | @logic op left right l r hl hr ihl ihr =>
    refine (Lowers.logic hl hr).agrees_of_open fun hopen => ?_
    rw [Expr.reading_logic hopen]
    refine ihl.outcome ihr (fun hl => ?_) fun t t' hl hr => ?_
    · obtain ⟨y, hy, -⟩ := hr.outcome hrow
      have hlogic := Condition.eval_logic_eq op (x := .ok (some op.absorbing)) hl hy
      rwa [LogicOp.outcome_absorbing_left] at hlogic
    · have hlogic := Condition.eval_logic_eq op (x := .ok t) (y := .ok t') hl hr
      obtain ⟨t'', ht''⟩ := op.outcome_ok t t'
      rw [ht''] at hlogic ⊢
      exact .inr ⟨t'', rfl, hlogic⟩
  | notFolded h ih =>
    refine (Lowers.notFolded h).agrees_of_open fun hopen => ?_
    rw [Expr.reading_not hopen]
    rcases ih with hzero | ⟨t, ht, heval⟩
    · exact .inl (by rw [hzero]; rfl)
    · cases eq_of_eval_folded heval
      exact .inr ⟨_, by rw [ht]; rfl, rfl⟩
  | not h ih =>
    refine (Lowers.not h).agrees_of_open fun hopen => ?_
    rw [Expr.reading_not hopen]
    rcases ih with hzero | ⟨t, ht, heval⟩
    · exact .inl (by rw [hzero]; rfl)
    · refine .inr ⟨_, by rw [ht]; rfl, ?_⟩
      exact Condition.eval_not_eq (x := .ok t) heval

end Scope

-- ---------------------------------------------------------------------------
-- Queries
-- ---------------------------------------------------------------------------

theorem Scope.Lowers.selects_eq_isTrueOn {s : Scope} {e : Expr} {lowered : Lowered}
    {row : List Value} (h : Lowers s e lowered) (hrow : s.Fits row)
    (hzero : e.reading s row ≠ .error .divisionByZero) :
    lowered.selects ((StoredTable.ofTable s.table).rowEnv row) = .ok (e.isTrueOn s row) := by
  obtain ⟨t, ht, heval⟩ := (h.agrees hrow).resolve_left hzero
  rw [Lowered.selects, heval, ok_bind, Truth.ofValue_toValue, ok_bind, Expr.isTrueOn, ht]
  rcases t with _ | _ | _ <;> rfl

namespace Session

variable {σ : Type}

/-- A prepared statement, executed on a database that holds the table, returns exactly the rows on
which the reading of the predicate is true, in the order in which they were inserted and with the
columns in the order of the table. -/
theorem execute_prepare (s : Session σ) (type : RecordType) (p : Predicate) (st : State σ)
    {statement : Statement} {db : Database} {rows : List (List Value)}
    (ht : (st.tableOf type).Writable) (hn : (st.tableOf type).columnNames.Nodup)
    (hdb : db.Holds (st.tableOf type) rows)
    (h : ((s.prepare type p).run.run st).1 = .ok statement)
    (hs : s.style.Covers statement.parameters.length)
    (hzero : ∀ row ∈ rows, p.body.reading (st.scope type p) row ≠ .error .divisionByZero) :
    (db.execute statement).result =
      .ok ((rows.filter (p.body.isTrueOn (st.scope type p))).map
        (Row.mk (st.tableOf type).columnNames)) := by
  obtain ⟨lowered, hlower, rfl⟩ := lowers_of_prepare h
  have hlowers := Scope.Lowers.of_lower hlower
  obtain ⟨-, -, -, -, haccepts⟩ := hdb.stored
  have hselects : ∀ row ∈ rows,
      lowered.selects ((StoredTable.ofTable (st.tableOf type)).rowEnv row) =
        .ok (p.body.isTrueOn (st.scope type p) row) := by
    intro row hrow
    exact hlowers.selects_eq_isTrueOn ⟨hn, haccepts row hrow⟩ (hzero row hrow)
  have hexecute := Database.Holds.execute_lowered hdb hlowers ht hn hs
  simp only [State.scope, filterM_ok hselects] at hexecute
  exact hexecute

theorem execute_prepare_null :
    (Database.execute
      ⟨[("TestType",
        ⟨[("IntColumn", .int32), ("BoolColumn", .boolean), ("StringColumn", .varchar)],
          [[.int32 1, .null, .string "b"], [.null, .null, .string "a"],
            [.int32 3, .boolean true, .null]]⟩)]⟩
      ⟨"SELECT IntColumn, BoolColumn, StringColumn FROM TestType WHERE " ++
        "NOT (IntColumn > ?) OR StringColumn IS NULL", [⟨"?", .int32 2⟩]⟩).result =
      .ok [⟨["IntColumn", "BoolColumn", "StringColumn"], [.int32 3, .boolean true, .null]⟩,
        ⟨["IntColumn", "BoolColumn", "StringColumn"], [.int32 1, .null, .string "b"]⟩] := by
  have hdb : Database.Holds Demo.testType.table _
      [[.int32 3, .boolean true, .null], [.null, .null, .string "a"],
        [.int32 1, .null, .string "b"]] :=
    .insert (.insert (.insert (@Database.Holds.create _ .empty _ ⟨rfl, rfl⟩) ⟨rfl, rfl⟩) ⟨rfl, rfl⟩)
      ⟨rfl, rfl⟩
  refine execute_prepare ⟨.question, Database.executor⟩ Demo.testType
    (.build fun q => .logic .or (.not (.compare .lt (Demo.int 2) (q "IntColumn")))
      (.compare .eq (q "StringColumn") (.constant .null)))
    (.start .empty) ⟨by decide +kernel, by decide +kernel, by decide⟩ (by decide) hdb (by cbv)
    (by decide) ?_
  intro row hrow hzero
  fin_cases hrow <;> cases hzero

end Session

end PredicateSql
