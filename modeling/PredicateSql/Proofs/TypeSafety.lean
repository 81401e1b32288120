import PredicateSql.Demo
import PredicateSql.Proofs.Comparisons

/-!
# Compiled filters are well typed

What was checked when a predicate was lowered is enough for every accepted row: its filter, written
out, read back and evaluated with the values bound, is true, false or unknown. The only failure is a
division by zero, and it takes a division in the predicate.
-/

namespace PredicateSql

open PredicateSql.Lexer PredicateSql.Parser

-- ---------------------------------------------------------------------------
-- Reading a filter back
-- ---------------------------------------------------------------------------

def Condition.ofText (text : String) : Except DatabaseError (Condition Reference) := do
  let tokens ← (Token.scan text).mapError .lexing
  match Parser.condition 0 tokens with
  | .ok (tree, _, ⟨[.eof], _⟩) => return tree
  | .ok (_, _, rest) => throw (.parsing text (.afterStatement (current rest.1)))
  | .error f => throw (.parsing text f.error)

/-- The value of a lowered predicate on a row: what it was decided to be, or what the text of its
filter gives with the values bound. -/
def Lowered.valueOn (style : Style) (t : Table) (row : List Value) :
    Lowered → Except DatabaseError Value
  | .folded value => .ok (.boolean value)
  | .filter f => do
    let statement := f.fragment.render style
    let c ← Condition.ofText statement.text
    (c.eval ((StoredTable.ofTable t).env statement.parameters row)).mapError .condition

theorem Fragment.Spells.ofText {f : Fragment} {style : Style} {c : Condition Value}
    (h : f.Spells style .disjunction c) (hs : style.Covers f.values.length) :
    Condition.ofText (f.render style).text = .ok (c.relabel style.reference 0) ∧
      (f.render style).parameters = style.parameters 0 c.placeholders := by
  have hbalanced : f.Balanced := by rw [Fragment.Balanced, h.slotCount, h.values]
  obtain ⟨ts, hts, hread⟩ := h.reads 0 (by simpa [h.values] using hs)
  rw [style.bareBefore_zero] at hts
  have hcondition : Gives (condition 0 (ts ++ [.eof])) _ _ [.eof] :=
    hts.gives (show 7 < 8 by decide)
  obtain ⟨_, hcondition⟩ := hcondition
  rw [f.render_of_balanced style hbalanced, h.values]
  refine ⟨?_, rfl⟩
  simp only [Condition.ofText, (hread [] rfl).scan, Except.mapError, bind, Except.bind, hcondition]
  rfl

variable {s : Scope} {e : Expr} {lowered : Lowered} {row : List Value} {style : Style}

theorem Scope.Lowers.valueOn_eq (h : Lowers s e lowered)
    (hplain : ∀ name ∈ s.table.columnNames, isPlain name = true)
    (hs : style.Covers lowered.fragment.values.length) :
    lowered.valueOn style s.table row =
      (lowered.eval ((StoredTable.ofTable s.table).rowEnv row)).mapError .condition := by
  cases lowered with
  | folded value => rfl
  | filter f =>
    obtain ⟨htext, hparameters⟩ := (f.spells style (h.plain hplain)).1.ofText hs
    simp only [Lowered.valueOn, htext, hparameters, bind, Except.bind, StoredTable.eval_bound,
      Lowered.eval]

-- ---------------------------------------------------------------------------
-- Truth values
-- ---------------------------------------------------------------------------

section Eval

variable {env : Env Value} {left right : Condition Value} {x y : Except EvalError Truth}

@[simp] theorem Truth.ofValue_toValue (t : Truth) : Truth.ofValue t.toValue = .ok t := by
  rcases t with _ | b <;> rfl

/-- `AND` and `OR` of what is true, false or unknown. -/
def LogicOp.kleene : LogicOp → Truth → Truth → Truth
  | .and, some true, some true => some true
  | .and, some false, _ => some false
  | .and, _, some false => some false
  | .or, some false, some false => some false
  | .or, some true, _ => some true
  | .or, _, some true => some true
  | _, _, _ => none

/-- `AND` and `OR` of outcomes. A false left operand stops `AND`, and a true one `OR`. -/
def LogicOp.outcome (op : LogicOp) (x y : Except EvalError Truth) : Except EvalError Truth := do
  match op, ← x with
  | .and, some false => return some false
  | .or, some true => return some true
  | op, l => return op.kleene l (← y)

theorem LogicOp.kleene_eq_applyTruth (op : LogicOp) (l r : Truth) :
    op.kleene l r = op.applyTruth l r := by
  cases op <;> rcases l with _ | _ | _ <;> rcases r with _ | _ | _ <;> rfl

theorem LogicOp.outcome_eq (op : LogicOp) (x y : Except EvalError Truth) :
    op.outcome x y = x >>= fun l =>
      if l = some op.absorbing then pure l else y >>= fun r => pure (op.applyTruth l r) := by
  simp only [← kleene_eq_applyTruth]
  cases x with
  | error e => rfl
  | ok l => cases op <;> rcases l with _ | _ | _ <;> rfl

theorem Condition.eval_logic_eq (op : LogicOp)
    (hl : left.eval env = (x.map Truth.toValue).mapError .evaluation)
    (hr : right.eval env = (y.map Truth.toValue).mapError .evaluation) :
    (Condition.logic op left right).eval env =
      ((op.outcome x y).map Truth.toValue).mapError .evaluation := by
  rw [eval_logic, hl, hr]
  cases x with
  | error e => rfl
  | ok l =>
    simp only [LogicOp.outcome_eq, Except.map, Except.mapError, bind, Except.bind,
      Truth.ofValue_toValue]
    by_cases hdecides : l = some op.absorbing
    · simp only [hdecides, if_pos]
      rfl
    · simp only [if_neg hdecides]
      cases y with
      | error e => rfl
      | ok r => simp [Truth.ofValue_toValue, pure, Except.pure]

theorem Condition.eval_not_eq (h : left.eval env = (x.map Truth.toValue).mapError .evaluation) :
    (Condition.not left).eval env =
      ((x.map (Option.map (!·))).map Truth.toValue).mapError .evaluation := by
  rw [eval_not, h]
  cases x with
  | error e => rfl
  | ok t => simp [Except.map, Except.mapError, bind, Except.bind, pure, Except.pure]

end Eval

-- ---------------------------------------------------------------------------
-- Safety
-- ---------------------------------------------------------------------------

theorem LogicOp.outcome_safe {op : LogicOp} {x y : Except EvalError Truth} {divides divides' : Bool}
    (hx : Safe divides x fun _ => True) (hy : Safe divides' y fun _ => True) :
    Safe (divides || divides') (op.outcome x y) fun _ => True := by
  rw [outcome_eq]
  refine hx.bind fun l _ => ?_
  split
  · exact .inl ⟨l, rfl, trivial⟩
  · rcases hy with ⟨r, rfl, -⟩ | ⟨hd, rfl⟩
    · exact .inl ⟨_, rfl, trivial⟩
    · exact .inr ⟨hd, rfl⟩

/-- On an accepted row a lowered predicate is true, false or unknown, or divides by zero. -/
theorem Scope.Lowers.outcome (h : Lowers s e lowered) (hrow : s.Fits row) :
    ∃ x : Except EvalError Truth, lowered.eval ((StoredTable.ofTable s.table).rowEnv row) =
      (x.map Truth.toValue).mapError .evaluation ∧ Safe e.divides x fun _ => True := by
  induction h with
  | @fold e b _ _ => exact ⟨.ok (some b), rfl, .inl ⟨_, rfl, trivial⟩⟩
  | field hc htype =>
    obtain ⟨t, -, ht⟩ := hrow.eval_field hc htype
    exact ⟨.ok t, ht, .inl ⟨_, rfl, trivial⟩⟩
  | comparison h => exact ⟨_, h.eval hrow, h.safe hrow⟩
  | @decideLeft op left right _ _ =>
    exact ⟨.ok (some op.absorbing), rfl, .inl ⟨_, rfl, trivial⟩⟩
  | dropLeft _ _ _ ihr =>
    obtain ⟨x, hx, hsafe⟩ := ihr
    exact ⟨x, hx, hsafe.mono (by simp +contextual [Expr.divides])⟩
  | @decideRight op left right l _ _ _ _ =>
    exact ⟨.ok (some op.absorbing), rfl, .inl ⟨_, rfl, trivial⟩⟩
  | dropRight _ _ ihl _ =>
    obtain ⟨x, hx, hsafe⟩ := ihl
    exact ⟨x, hx, hsafe.mono (by simp +contextual [Expr.divides])⟩
  | logic _ _ ihl ihr =>
    obtain ⟨x, hx, hsafe⟩ := ihl
    obtain ⟨y, hy, hsafe'⟩ := ihr
    exact ⟨_, Condition.eval_logic_eq _ hx hy, LogicOp.outcome_safe hsafe hsafe'⟩
  | @notFolded operand b _ _ => exact ⟨.ok (some (!b)), rfl, .inl ⟨_, rfl, trivial⟩⟩
  | not _ ih =>
    obtain ⟨x, hx, hsafe⟩ := ih
    refine ⟨_, Condition.eval_not_eq hx, ?_⟩
    rcases hsafe with ⟨t, rfl, -⟩ | ⟨hd, rfl⟩
    · exact .inl ⟨_, rfl, trivial⟩
    · exact .inr ⟨hd, rfl⟩

/-- The filter of a predicate, read back from its text and evaluated on an accepted row with its
values bound, is true, false or unknown, or fails with a division by zero and with nothing else. It
cannot fail where the predicate has no division and no remainder. -/
theorem Scope.valueOn_filter_safe (s : Scope) (e : Expr) {f : Filter}
    (h : (s.lower e).result = .ok (.filter f)) (hn : s.table.columnNames.Nodup)
    (hplain : ∀ name ∈ s.table.columnNames, isPlain name = true) (style : Style)
    (hs : style.Covers f.fragment.values.length) (row : List Value)
    (hrow : s.table.accepts row = true) :
    ((∃ t : Truth, (Lowered.filter f).valueOn style s.table row = .ok t.toValue) ∨
      (Lowered.filter f).valueOn style s.table row =
        .error (.condition (.evaluation .divisionByZero))) ∧
    (e.divides = false →
      ∃ t : Truth, (Lowered.filter f).valueOn style s.table row = .ok t.toValue) := by
  have hlowers := Lowers.of_lower h
  obtain ⟨x, hx, hsafe⟩ := hlowers.outcome ⟨hn, hrow⟩
  rw [hlowers.valueOn_eq hplain hs, hx]
  rcases hsafe with ⟨t, rfl, -⟩ | ⟨hd, rfl⟩
  · exact ⟨.inl ⟨t, rfl⟩, fun _ => ⟨t, rfl⟩⟩
  · exact ⟨.inr rfl, fun hdivides => by simp [hdivides] at hd⟩

theorem Scope.valueOn_filter_safe_null :
    ∃ t : Truth, (Lowered.filter
      (.compare .gt (.arith .add (.column "IntColumn") (.bound (.int32 1)))
        (.bound (.int32 2)))).valueOn .named Demo.testType.table
          [.null, .boolean true, .string "4"] = .ok t.toValue :=
  (valueOn_filter_safe ⟨Demo.testType.table, "TestType", "q"⟩
    (.compare .lt (Demo.int 2) (.arith .add (.member (.parameter "q") "IntColumn") (Demo.int 1)))
    rfl (by decide) (by decide +kernel) .named (by decide) _ (by decide)).2 rfl

end PredicateSql
