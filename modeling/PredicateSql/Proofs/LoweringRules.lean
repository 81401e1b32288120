import PredicateSql.Lowering
import PredicateSql.Proofs.Outcomes

/-!
# Lowering by rules

One rule for each way that lowering can succeed, with all that was checked on that way. What holds
of lowered operands and predicates is proved by induction over the rules, without opening `operand`
and `lower` again. `Lowers.of_lower` and `Lowers.lower`: the rules give what lowering gives.
-/

namespace PredicateSql

-- ---------------------------------------------------------------------------
-- Evaluation by the program
-- ---------------------------------------------------------------------------

theorem LogicOp.eq_identity {op : LogicOp} {b : Bool} (h : b ≠ op.absorbing) : b = op.identity := by
  simpa [identity, Bool.eq_not] using h

theorem LogicOp.identity_ne_absorbing (op : LogicOp) : op.identity ≠ op.absorbing := by
  simp [identity]

theorem Value.asBool_eq_ok {context : String} {v : Value} {b : Bool} :
    v.asBool context = .ok b ↔ v = .boolean b := by
  cases v <;> simp [asBool]

namespace Expr

variable {left right operand : Expr}

theorem isClosed_compare (op : CompareOp) :
    (Expr.compare op left right).isClosed = (left.isClosed && right.isClosed) := by
  simp only [isClosed, dependence]
  cases left.dependence <;> cases right.dependence <;> rfl

theorem isClosed_arith (op : ArithOp) :
    (Expr.arith op left right).isClosed = (left.isClosed && right.isClosed) := by
  simp only [isClosed, dependence]
  cases left.dependence <;> cases right.dependence <;> rfl

theorem isClosed_logic (op : LogicOp) :
    (Expr.logic op left right).isClosed = (left.isClosed && right.isClosed) := by
  simp only [isClosed, dependence]
  cases left.dependence <;> cases right.dependence <;> rfl

variable {context : String} {op : LogicOp} {b : Bool}

theorem evalBool_eq_ok {e : Expr} : e.evalBool context = .ok b ↔ e.eval = .ok (.boolean b) := by
  simp only [evalBool, bind_eq_ok, Value.asBool_eq_ok, exists_eq_right]

theorem eval_logic_eq_ok : (Expr.logic op left right).eval = .ok (.boolean b) ↔
    left.eval = .ok (.boolean op.absorbing) ∧ b = op.absorbing ∨
      left.eval = .ok (.boolean op.identity) ∧ right.eval = .ok (.boolean b) := by
  simp only [eval, bind_eq_ok, Value.asBool_eq_ok]
  constructor
  · rintro ⟨_, hl, l, rfl, h⟩
    by_cases hdecides : l = op.absorbing
    · rw [if_pos hdecides] at h
      cases h
      exact .inl ⟨hdecides ▸ hl, hdecides⟩
    · simp only [if_neg hdecides, bind_eq_ok, Value.asBool_eq_ok, pure_eq_ok] at h
      obtain ⟨_, hr, r, rfl, hb⟩ := h
      cases hb
      exact .inr ⟨LogicOp.eq_identity hdecides ▸ hl, hr⟩
  · rintro (⟨hl, rfl⟩ | ⟨hl, hr⟩)
    · exact ⟨_, hl, _, rfl, by simp [pure, Except.pure]⟩
    · refine ⟨_, hl, _, rfl, ?_⟩
      simp [op.identity_ne_absorbing, hr, Value.asBool, bind, Except.bind, pure, Except.pure]

theorem eval_not_eq_ok :
    (Expr.not operand).eval = .ok (.boolean b) ↔ operand.eval = .ok (.boolean !b) := by
  simp only [eval, bind_eq_ok, Value.asBool_eq_ok, pure_eq_ok]
  constructor
  · rintro ⟨_, h, a, rfl, hb⟩
    cases hb
    simpa using h
  · intro h
    exact ⟨_, h, _, rfl, by simp⟩

theorem hostValue_eq_ok {e : Expr} {o : Operand} :
    e.hostValue = .ok o ↔ ∃ v, e.eval = .ok v ∧ .value v = o := by
  simp only [hostValue, map_eq_ok, mapError_eq_ok]

theorem fold_eq_ok {e : Expr} {lowered : Lowered} :
    e.fold.result = .ok lowered ↔ ∃ b, e.evalBool "predicate" = .ok b ∧ .folded b = lowered := by
  simp only [result_fold, map_eq_ok, mapError_eq_ok]

theorem fold_of_eval {e : Expr} (h : e.eval = .ok (.boolean b)) :
    e.fold.result = .ok (.folded b) :=
  fold_eq_ok.2 ⟨b, evalBool_eq_ok.2 h, rfl⟩

end Expr

-- ---------------------------------------------------------------------------
-- Operands
-- ---------------------------------------------------------------------------

namespace Operand

variable (v : Value) (t : Term) (type : DataType) (label : Label)

@[simp] theorem toTerm_value : (Operand.value v).toTerm = .bound v := rfl
@[simp] theorem toTerm_term : (Operand.term t type label).toTerm = t := rfl
@[simp] theorem type?_value : (Operand.value v).type? = v.type? := rfl
@[simp] theorem type?_term : (Operand.term t type label).type? = some type := rfl

end Operand

namespace Scope

theorem resolve_eq_ok {s : Scope} {name member : String} {c : Column} :
    s.resolve (.parameter name) member = .ok c ↔
      name = s.parameter ∧ s.table.column? s.record member = some c := by
  simp only [resolve]
  cases s.table.column? s.record member <;> split <;> simp_all

theorem mem_of_column? {t : Table} {record field : String} {c : Column}
    (h : t.column? record field = some c) : c ∈ t.columns := by
  unfold Table.column? at h
  split at h
  · exact List.mem_of_find?_eq_some h
  · cases h

inductive LowersOperand (s : Scope) : Expr → Operand → Prop
  | value {e v} : e.isClosed = true → e.eval = .ok v → LowersOperand s e (.value v)
  | column {field c} : s.table.column? s.record field = some c →
      LowersOperand s (.member (.parameter s.parameter) field)
        (.term (.column c.name) c.type (.column c.name))
  | arith {op left right l r type} : (Expr.arith op left right).isClosed = false →
      LowersOperand s left l → LowersOperand s right r →
      op.operandType? l.type? r.type? = some type →
      LowersOperand s (.arith op left right)
        (.term (.arith op l.toTerm r.toTerm) type (.expression (.arith op left right)))

theorem operand_of_leaf {s : Scope} {e : Expr} {o : Operand}
    (h : (if e.isClosed then e.hostValue else .error (.unsupported (.booleanOperand e))) = .ok o) :
    LowersOperand s e o := by
  split at h
  next hclosed =>
    obtain ⟨v, hv, rfl⟩ := Expr.hostValue_eq_ok.1 h
    exact .value hclosed hv
  next => cases h

theorem LowersOperand.of_operand {s : Scope} {e : Expr} {o : Operand} (h : s.operand e = .ok o) :
    LowersOperand s e o := by
  induction e generalizing o with
  | member owner field =>
    cases owner with
    | parameter name =>
      simp only [operand_field, bind_eq_ok, pure_eq_ok, resolve_eq_ok] at h
      obtain ⟨c, ⟨rfl, hc⟩, rfl⟩ := h
      exact .column hc
    | capture c => exact operand_of_leaf h
  | arith op left right ihl ihr =>
    rw [operand] at h
    split at h
    next hclosed =>
      obtain ⟨v, hv, rfl⟩ := Expr.hostValue_eq_ok.1 h
      exact .value hclosed hv
    next hclosed =>
      simp only [bind_eq_ok] at h
      obtain ⟨l, hl, r, hr, h⟩ := h
      split at h
      next type htype =>
        cases pure_eq_ok.1 h
        exact .arith (by simpa using hclosed) (ihl hl) (ihr hr) htype
      next => cases h
  | _ => exact operand_of_leaf h

theorem operand_of_isClosed {s : Scope} {e : Expr} (h : e.isClosed = true) :
    s.operand e = e.hostValue := by
  cases e with
  | member owner field =>
    cases owner with
    | parameter name => cases h
    | capture c => rfl
  | arith op left right => rw [operand, if_pos h]
  | constant _ | capture _ => rfl
  | compare _ _ _ | logic _ _ _ | not _ => exact if_pos h

theorem LowersOperand.operand {s : Scope} {e : Expr} {o : Operand} (h : LowersOperand s e o) :
    s.operand e = .ok o := by
  induction h with
  | value hclosed hv =>
    rw [operand_of_isClosed hclosed]
    exact Expr.hostValue_eq_ok.2 ⟨_, hv, rfl⟩
  | column hc => simp [operand_field, resolve_eq_ok.2 ⟨rfl, hc⟩, ok_bind, pure, Except.pure]
  | arith hopen _ _ htype ihl ihr =>
    simp [Scope.operand, hopen, ihl, ihr, ok_bind, htype, pure, Except.pure]

theorem LowersOperand.isClosed_value {s : Scope} {e : Expr} {v : Value}
    (h : LowersOperand s e (.value v)) : e.isClosed = true ∧ e.eval = .ok v := by
  cases h with
  | value hclosed hv => exact ⟨hclosed, hv⟩

theorem LowersOperand.isClosed_term {s : Scope} {e : Expr} {t : Term} {type : DataType}
    {label : Label} (h : LowersOperand s e (.term t type label)) : e.isClosed = false := by
  cases h with
  | column => rfl
  | arith hopen => exact hopen

end Scope

-- ---------------------------------------------------------------------------
-- Predicates
-- ---------------------------------------------------------------------------

inductive Filter.ComparesValue (op : CompareOp) (t : Term) (type : DataType) : Value → Filter → Prop
  | isNull : op = .eq → ComparesValue op t type .null (.isNull t)
  | isNotNull : op = .ne → ComparesValue op t type .null (.isNotNull t)
  | bound {v} : v ≠ .null → v.fits type = true →
      ComparesValue op t type v (.compare op t (.bound v))

theorem Filter.ComparesValue.of_compareValue {op : CompareOp} {t : Term} {type : DataType}
    {label : Label} {v : Value} {f : Filter} (h : compareValue op (.term t type label) v = .ok f) :
    ComparesValue op t type v f := by
  cases v with
  | null =>
    cases op with
    | eq =>
      cases h
      exact .isNull rfl
    | ne =>
      cases h
      exact .isNotNull rfl
    | _ => cases h
  | boolean _ | int32 _ | string _ =>
    simp only [compareValue] at h
    split at h
    next hfits =>
      cases h
      exact .bound nofun hfits
    next => cases h

theorem Filter.ComparesValue.compareValue {op : CompareOp} {t : Term} {type : DataType}
    {v : Value} {f : Filter} (h : ComparesValue op t type v f) (label : Label) :
    Filter.compareValue op (.term t type label) v = .ok f := by
  cases h with
  | isNull hop => subst hop; rfl
  | isNotNull hop => subst hop; rfl
  | bound hv hfits =>
    cases v with
    | null => exact absurd rfl hv
    | _ => simp [Filter.compareValue, hfits]

namespace Scope

inductive LowersComparison (s : Scope) (op : CompareOp) (left right : Expr) : Filter → Prop
  | value {t type label v f} : LowersOperand s left (.term t type label) →
      LowersOperand s right (.value v) → Filter.ComparesValue op t type v f →
      LowersComparison s op left right f
  | flipped {t type label v f} : LowersOperand s left (.value v) →
      LowersOperand s right (.term t type label) → Filter.ComparesValue op.flip t type v f →
      LowersComparison s op left right f
  | terms {l r type label label'} : LowersOperand s left (.term l type label) →
      LowersOperand s right (.term r type label') →
      LowersComparison s op left right (.compare op l r)

inductive Lowers (s : Scope) : Expr → Lowered → Prop
  | fold {e b} : e.isClosed = true → e.evalBool "predicate" = .ok b → Lowers s e (.folded b)
  | field {field c} : s.table.column? s.record field = some c → c.type = .boolean →
      Lowers s (.member (.parameter s.parameter) field)
        (.filter (.compare .eq (.column c.name) (.bound (.boolean true))))
  | comparison {op left right f} : LowersComparison s op left right f →
      Lowers s (.compare op left right) (.filter f)
  | decideLeft {op left right} : Lowers s left (.folded op.absorbing) →
      Lowers s (.logic op left right) (.folded op.absorbing)
  | dropLeft {op left right lowered} : Lowers s left (.folded op.identity) →
      Lowers s right lowered → Lowers s (.logic op left right) lowered
  | decideRight {op left right l} : Lowers s left (.filter l) →
      Lowers s right (.folded op.absorbing) → Lowers s (.logic op left right) (.folded op.absorbing)
  | dropRight {op left right l} : Lowers s left (.filter l) →
      Lowers s right (.folded op.identity) → Lowers s (.logic op left right) (.filter l)
  | logic {op left right l r} : Lowers s left (.filter l) → Lowers s right (.filter r) →
      Lowers s (.logic op left right) (.filter (.logic op l r))
  | notFolded {operand b} : Lowers s operand (.folded b) → Lowers s (.not operand) (.folded (!b))
  | not {operand f} : Lowers s operand (.filter f) → Lowers s (.not operand) (.filter (.not f))

variable {s : Scope} {lowered : Lowered}

theorem Lowers.of_fold {e : Expr} (hclosed : e.isClosed = true)
    (h : e.fold.result = .ok lowered) : Lowers s e lowered := by
  obtain ⟨b, hb, rfl⟩ := Expr.fold_eq_ok.1 h
  exact .fold hclosed hb

theorem Lowers.of_comparison {op : CompareOp} {left right : Expr}
    (hclosed : (Expr.compare op left right).isClosed = false)
    (h : (s.comparison op left right).result = .ok lowered) :
    Lowers s (.compare op left right) lowered := by
  simp only [Scope.comparison, Run.result_bind, Run.result_ofExcept, bind_eq_ok] at h
  obtain ⟨l, hl, r, hr, h⟩ := h
  have hl := LowersOperand.of_operand hl
  have hr := LowersOperand.of_operand hr
  match l, r with
  | .value l, .value r =>
    rw [Expr.isClosed_compare, hl.isClosed_value.1, hr.isClosed_value.1] at hclosed
    cases hclosed
  | .term t type label, .value v =>
    simp only [Run.result_bind, Run.result_ofExcept, bind_eq_ok] at h
    obtain ⟨f, hf, h⟩ := h
    cases h
    exact .comparison (.value hl hr (.of_compareValue hf))
  | .value v, .term t type label =>
    simp only [Run.result_bind, Run.result_ofExcept, bind_eq_ok] at h
    obtain ⟨f, hf, h⟩ := h
    cases h
    exact .comparison (.flipped hl hr (.of_compareValue hf))
  | .term l lt _, .term r rt _ =>
    simp only at h
    split at h
    next htype =>
      obtain rfl : lt = rt := by simpa [CompareOp.comparable] using htype
      cases h
      exact .comparison (.terms hl hr)
    next => cases h

theorem Lowers.of_lower {e : Expr} (h : (s.lower e).result = .ok lowered) : Lowers s e lowered := by
  induction e generalizing lowered with
  | constant v => exact .of_fold rfl h
  | capture c => exact .of_fold rfl h
  | member owner field =>
    cases owner with
    | capture c => exact .of_fold rfl h
    | parameter name =>
      simp only [lower_field, booleanField, Run.result_bind, Run.result_ofExcept, bind_eq_ok,
        resolve_eq_ok] at h
      obtain ⟨f, ⟨c, ⟨rfl, hc⟩, hf⟩, h⟩ := h
      cases h
      split at hf
      next htype =>
        cases hf
        exact .field hc htype
      next => cases hf
  | compare op left right =>
    rw [lower] at h
    split at h
    next hclosed => exact .of_fold hclosed h
    next hclosed => exact .of_comparison (by simpa using hclosed) h
  | arith op left right =>
    rw [lower] at h
    split at h
    next hclosed => exact .of_fold hclosed h
    next => cases h
  | logic op left right ihl ihr =>
    rw [result_lower_logic, bind_eq_ok] at h
    obtain ⟨l, hl, h⟩ := h
    cases l with
    | folded value =>
      simp only at h
      split at h
      next hv =>
        cases h
        subst hv
        exact .decideLeft (ihl hl)
      next hv => exact .dropLeft (LogicOp.eq_identity hv ▸ ihl hl) (ihr h)
    | filter l =>
      simp only [bind_eq_ok] at h
      obtain ⟨r, hr, h⟩ := h
      cases r with
      | folded value =>
        simp only at h
        split at h
        next hv =>
          cases h
          subst hv
          exact .decideRight (ihl hl) (ihr hr)
        next hv =>
          cases h
          exact .dropRight (ihl hl) (LogicOp.eq_identity hv ▸ ihr hr)
      | filter r =>
        cases h
        exact .logic (ihl hl) (ihr hr)
  | not operand ih =>
    rw [result_lower_not, map_eq_ok] at h
    obtain ⟨l, hl, h⟩ := h
    cases l with
    | folded value =>
      cases h
      exact .notFolded (ih hl)
    | filter f =>
      cases h
      exact .not (ih hl)

theorem LowersComparison.isClosed {op : CompareOp} {left right : Expr} {f : Filter}
    (h : LowersComparison s op left right f) : (Expr.compare op left right).isClosed = false := by
  rw [Expr.isClosed_compare]
  cases h with
  | value hl _ _ | terms hl _ => rw [hl.isClosed_term, Bool.false_and]
  | flipped _ hr _ => rw [hr.isClosed_term, Bool.and_false]

theorem Lowers.folded_of_isClosed {e : Expr} (h : Lowers s e lowered)
    (hclosed : e.isClosed = true) :
    ∃ b, lowered = .folded b ∧ e.evalBool "predicate" = .ok b := by
  induction h with
  | fold _ hb => exact ⟨_, rfl, hb⟩
  | field => cases hclosed
  | comparison h =>
    rw [h.isClosed] at hclosed
    cases hclosed
  | decideLeft _ ih =>
    rw [Expr.isClosed_logic, Bool.and_eq_true] at hclosed
    obtain ⟨b, hb, hl⟩ := ih hclosed.1
    cases hb
    rw [Expr.evalBool_eq_ok] at hl
    exact ⟨_, rfl, Expr.evalBool_eq_ok.2 (Expr.eval_logic_eq_ok.2 (.inl ⟨hl, rfl⟩))⟩
  | dropLeft _ _ ihl ihr =>
    rw [Expr.isClosed_logic, Bool.and_eq_true] at hclosed
    obtain ⟨b, hb, hl⟩ := ihl hclosed.1
    obtain ⟨b', rfl, hr⟩ := ihr hclosed.2
    cases hb
    rw [Expr.evalBool_eq_ok] at hl hr
    exact ⟨_, rfl, Expr.evalBool_eq_ok.2 (Expr.eval_logic_eq_ok.2 (.inr ⟨hl, hr⟩))⟩
  | decideRight _ _ ihl _ | dropRight _ _ ihl _ | logic _ _ ihl _ =>
    rw [Expr.isClosed_logic, Bool.and_eq_true] at hclosed
    obtain ⟨b, hb, -⟩ := ihl hclosed.1
    cases hb
  | notFolded _ ih =>
    obtain ⟨b, hb, he⟩ := ih hclosed
    cases hb
    rw [Expr.evalBool_eq_ok] at he
    exact ⟨_, rfl, Expr.evalBool_eq_ok.2 (Expr.eval_not_eq_ok.2 (by simpa using he))⟩
  | not _ ih =>
    obtain ⟨b, hb, -⟩ := ih hclosed
    cases hb

/-- What holds of comparisons and tests and is kept by the logical operators holds of the filter of
a predicate. -/
theorem Lowers.filter_rec {P : Filter → Prop} {e : Expr} {f : Filter} (h : Lowers s e (.filter f))
    (field : ∀ {c : Column}, c ∈ s.table.columns → c.type = .boolean →
      P (.compare .eq (.column c.name) (.bound (.boolean true))))
    (value : ∀ {op e t type label v f}, LowersOperand s e (.term t type label) →
      Filter.ComparesValue op t type v f → P f)
    (terms : ∀ {op e e' l r type label label'}, LowersOperand s e (.term l type label) →
      LowersOperand s e' (.term r type label') → P (.compare op l r))
    (not : ∀ {f}, P f → P (.not f)) (logic : ∀ {op l r}, P l → P r → P (.logic op l r)) : P f := by
  generalize hlowered : Lowered.filter f = lowered at h
  induction h generalizing f with
  | fold | decideLeft | decideRight | notFolded => cases hlowered
  | field hc htype =>
    cases hlowered
    exact field (mem_of_column? hc) htype
  | comparison h =>
    cases hlowered
    cases h with
    | value hl _ hf => exact value hl hf
    | flipped _ hr hf => exact value hr hf
    | terms hl hr => exact terms hl hr
  | dropLeft _ _ _ ihr => exact ihr hlowered
  | dropRight _ _ ihl _ => exact ihl hlowered
  | logic _ _ ihl ihr =>
    cases hlowered
    exact logic (ihl rfl) (ihr rfl)
  | not _ ih =>
    cases hlowered
    exact not (ih rfl)

-- ---------------------------------------------------------------------------
-- Whatever the rules give is lowered so
-- ---------------------------------------------------------------------------

section Logic

variable {op : LogicOp} {left right : Expr} {l r : Filter}

theorem lower_logic_absorbing (hl : (s.lower left).result = .ok (.folded op.absorbing)) :
    (s.lower (.logic op left right)).result = .ok (.folded op.absorbing) := by
  simp [result_lower_logic, hl, ok_bind, pure, Except.pure]

theorem lower_logic_identity (hl : (s.lower left).result = .ok (.folded op.identity)) :
    (s.lower (.logic op left right)).result = (s.lower right).result := by
  simp [result_lower_logic, hl, ok_bind, op.identity_ne_absorbing]

theorem lower_logic_filter (hl : (s.lower left).result = .ok (.filter l)) :
    (s.lower (.logic op left right)).result = (s.lower right).result >>= fun
      | .folded b => if b = op.absorbing then pure (.folded b) else pure (.filter l)
      | .filter r => pure (.filter (.logic op l r)) := by
  rw [result_lower_logic, hl]
  rfl

end Logic

theorem lower_of_isClosed {e : Expr} {b : Bool} (hclosed : e.isClosed = true)
    (hb : e.eval = .ok (.boolean b)) : (s.lower e).result = .ok (.folded b) := by
  induction e generalizing b with
  | constant _ | capture _ => exact Expr.fold_of_eval hb
  | member owner field =>
    cases owner with
    | parameter name => cases hclosed
    | capture c => exact Expr.fold_of_eval hb
  | compare op left right => rw [lower, if_pos hclosed, Expr.fold_of_eval hb]
  | arith op left right => rw [lower, if_pos hclosed, Expr.fold_of_eval hb]
  | logic op left right ihl ihr =>
    rw [Expr.isClosed_logic, Bool.and_eq_true] at hclosed
    rcases Expr.eval_logic_eq_ok.1 hb with ⟨hl, rfl⟩ | ⟨hl, hr⟩
    · exact lower_logic_absorbing (ihl hclosed.1 hl)
    · rw [lower_logic_identity (ihl hclosed.1 hl)]
      exact ihr hclosed.2 hr
  | not operand ih =>
    simp [result_lower_not, ih hclosed (Expr.eval_not_eq_ok.1 hb), Except.map]

theorem LowersComparison.lower {op : CompareOp} {left right : Expr} {f : Filter}
    (h : LowersComparison s op left right f) :
    (s.lower (.compare op left right)).result = .ok (.filter f) := by
  have hopen := h.isClosed
  rw [Scope.lower, hopen]
  simp only [Bool.false_eq_true, if_false, comparison, Run.result_bind, Run.result_ofExcept]
  cases h with
  | value hl hr hf | flipped hl hr hf =>
    simp [hl.operand, hr.operand, hf.compareValue, ok_bind]
  | terms hl hr => simp [hl.operand, hr.operand, ok_bind, CompareOp.comparable]

theorem Lowers.lower {e : Expr} (h : Lowers s e lowered) : (s.lower e).result = .ok lowered := by
  induction h with
  | fold hclosed hb => exact lower_of_isClosed hclosed (Expr.evalBool_eq_ok.1 hb)
  | field hc htype =>
    simp only [lower_field, booleanField, resolve_eq_ok.2 ⟨rfl, hc⟩, htype, ok_bind, if_true,
      Run.result_bind, Run.result_ofExcept]
    rfl
  | comparison h => exact h.lower
  | decideLeft _ ih => exact lower_logic_absorbing ih
  | dropLeft _ _ ihl ihr => rwa [lower_logic_identity ihl]
  | decideRight _ _ ihl ihr => simp [lower_logic_filter ihl, ihr, ok_bind, pure, Except.pure]
  | @dropRight op _ _ _ _ _ ihl ihr =>
    simp [lower_logic_filter ihl, ihr, ok_bind, op.identity_ne_absorbing, pure, Except.pure]
  | logic _ _ ihl ihr => simp [lower_logic_filter ihl, ihr, ok_bind, pure, Except.pure]
  | notFolded _ ih | not _ ih => simp [result_lower_not, ih, Except.map]

end Scope

end PredicateSql
