import PredicateSql.Database
import PredicateSql.Proofs.Residue

/-!
# Operands on a row

The program gives an operand a value once the row's values stand for its fields (`Expr.valueOn`).
`LowersOperand.eval`: the database gives the lowered operand the same value. `LowersOperand.safe`:
that value is of the type that was found for the operand, and only a division by zero can fail.
-/

namespace PredicateSql

-- ---------------------------------------------------------------------------
-- Rows of a table
-- ---------------------------------------------------------------------------

def Table.accepts (t : Table) (row : List Value) : Bool :=
  row.length == t.columns.length && (t.columns.zip row).all fun (column, v) => v.fits column.type

def Table.valueOf? (t : Table) (record field : String) (row : List Value) : Option Value :=
  if record = t.record then ((t.columns.zip row).find? (·.1.field == field)).map (·.2) else none

/-- The columns by the stored row, and each placeholder for itself. -/
def StoredTable.rowEnv (t : StoredTable) (row : List Value) : Env Value where
  column := (t.env [] row).column
  bound := .ok

def Lowered.eval (env : Env Value) : Lowered → Except ConditionError Value
  | .folded value => .ok (.boolean value)
  | .filter f => f.condition.eval env

theorem StoredTable.eval_bound (t : StoredTable) (row : List Value) (style : Style)
    (c : Condition Value) :
    (c.relabel style.reference 0).eval (t.env (style.parameters 0 c.placeholders) row) =
      c.eval (t.rowEnv row) := by
  have hcolumn : (t.env (style.parameters 0 c.placeholders) row).column = (t.rowEnv row).column :=
    rfl
  refine Condition.eval_relabel hcolumn c fun k v hv => ?_
  rw [Nat.zero_add]
  exact Reference.bind_parameters style hv

theorem find?_zip {columns : List Column} {row : List Value} {field : String} {c : Column}
    (hc : columns.find? (·.field == field) = some c) (hn : (columns.map (·.name)).Nodup)
    (hlen : row.length = columns.length) (hfits : ∀ p ∈ columns.zip row, p.2.fits p.1.type = true) :
    ∃ v i, (columns.zip row).find? (·.1.field == field) = some (c, v) ∧ v.fits c.type = true ∧
      columns.findIdx? (·.name == c.name) = some i ∧ row[i]? = some v := by
  induction columns generalizing row with
  | nil => cases hc
  | cons d columns ih =>
    match row, hlen with
    | w :: row, hlen =>
      by_cases hd : d.field = field
      · obtain rfl : d = c := by simpa [hd] using hc
        exact ⟨w, 0, by simp [hd], hfits (d, w) (by simp), by simp [List.findIdx?_cons], rfl⟩
      · have hc' : columns.find? (·.field == field) = some c := by simpa [hd] using hc
        obtain ⟨hmem, hn⟩ := List.nodup_cons.1 hn
        obtain ⟨v, i, hfind, hv, hidx, hrow⟩ := ih hc' hn (by simpa using hlen)
          fun p hp => hfits p (List.mem_cons_of_mem _ hp)
        have hne : d.name ≠ c.name := by
          intro heq
          exact hmem (List.mem_map.2 ⟨c, List.mem_of_find?_eq_some hc', heq.symm⟩)
        refine ⟨v, i + 1, by simpa [hd] using hfind, hv, ?_, hrow⟩
        simpa [List.findIdx?_cons, hne] using hidx

/-- A resolved field has a value on every accepted row, which its column's name finds too. -/
theorem Table.valueOf?_of_column? {t : Table} {record field : String} {c : Column}
    {row : List Value} (hc : t.column? record field = some c) (hn : t.columnNames.Nodup)
    (hrow : t.accepts row = true) :
    ∃ v, t.valueOf? record field row = some v ∧ v.fits c.type = true ∧
      ((StoredTable.ofTable t).rowEnv row).column c.name = .ok v := by
  simp only [accepts, Bool.and_eq_true, beq_iff_eq, List.all_eq_true] at hrow
  unfold column? at hc
  split at hc
  next hrecord =>
    obtain ⟨v, i, hfind, hv, hidx, hget⟩ := find?_zip hc hn hrow.1 hrow.2
    refine ⟨v, by simp [valueOf?, hrecord, hfind], hv, ?_⟩
    simp [StoredTable.rowEnv, StoredTable.env, StoredTable.columnIndex, StoredTable.ofTable,
      Function.comp_def, hidx, hget, bind, Except.bind, pure, Except.pure]
  next => cases hc

-- ---------------------------------------------------------------------------
-- Expressions on a row
-- ---------------------------------------------------------------------------

namespace Expr

/-- The expression with the row's values for the fields that the catalog resolves. -/
def onRow (s : Scope) (row : List Value) : Expr → Expr
  | .member (.parameter name) field =>
    match if name = s.parameter then s.table.valueOf? s.record field row else none with
    | some v => .constant v
    | none => .member (.parameter name) field
  | .compare op left right => .compare op (left.onRow s row) (right.onRow s row)
  | .arith op left right => .arith op (left.onRow s row) (right.onRow s row)
  | .logic op left right => .logic op (left.onRow s row) (right.onRow s row)
  | .not operand => .not (operand.onRow s row)
  | e => e

def valueOn (s : Scope) (row : List Value) (e : Expr) : Except EvalError Value :=
  (e.onRow s row).eval

theorem onRow_of_isClosed (s : Scope) (row : List Value) {e : Expr} (h : e.isClosed = true) :
    e.onRow s row = e := by
  induction e with
  | constant v => rfl
  | capture c => rfl
  | member owner field =>
    cases owner with
    | parameter name => cases h
    | capture c => rfl
  | compare op left right ihl ihr =>
    rw [isClosed_compare, Bool.and_eq_true] at h
    rw [onRow, ihl h.1, ihr h.2]
  | arith op left right ihl ihr =>
    rw [isClosed_arith, Bool.and_eq_true] at h
    rw [onRow, ihl h.1, ihr h.2]
  | logic op left right ihl ihr =>
    rw [isClosed_logic, Bool.and_eq_true] at h
    rw [onRow, ihl h.1, ihr h.2]
  | not operand ih => rw [onRow, ih h]

theorem valueOn_of_isClosed (s : Scope) (row : List Value) {e : Expr} (h : e.isClosed = true) :
    e.valueOn s row = e.eval := by
  rw [valueOn, onRow_of_isClosed s row h]

theorem valueOn_arith (s : Scope) (row : List Value) (op : ArithOp) (left right : Expr) :
    (Expr.arith op left right).valueOn s row =
      left.valueOn s row >>= fun l => right.valueOn s row >>= fun r => op.apply l r := rfl

end Expr

/-- What the lemmas about one row share: the columns can be told apart, and the row is accepted. -/
structure Scope.Fits (s : Scope) (row : List Value) : Prop where
  nodup : s.table.columnNames.Nodup
  accepts : s.table.accepts row = true

theorem Scope.Fits.valueOn_field {s : Scope} {row : List Value} (h : s.Fits row) {field : String}
    {c : Column} (hc : s.table.column? s.record field = some c) :
    ∃ v, (Expr.member (.parameter s.parameter) field).valueOn s row = .ok v ∧ v.fits c.type = true ∧
      ((StoredTable.ofTable s.table).rowEnv row).column c.name = .ok v := by
  obtain ⟨v, hv, hfits, hcolumn⟩ := s.table.valueOf?_of_column? hc h.nodup h.accepts
  refine ⟨v, ?_, hfits, hcolumn⟩
  simp [Expr.valueOn, Expr.onRow, hv, Expr.eval]

/-- The database and the program give an operand the same value. -/
theorem Scope.LowersOperand.eval {s : Scope} {e : Expr} {o : Operand} {row : List Value}
    (h : LowersOperand s e o) (hrow : s.Fits row) :
    o.toTerm.condition.eval ((StoredTable.ofTable s.table).rowEnv row) =
      (e.valueOn s row).mapError .evaluation := by
  induction h with
  | value hclosed hv =>
    rw [Expr.valueOn_of_isClosed s row hclosed, hv]
    rfl
  | column hc =>
    obtain ⟨v, hv, -, hcolumn⟩ := hrow.valueOn_field hc
    rw [hv]
    exact hcolumn
  | arith _ _ _ _ ihl ihr =>
    rw [Expr.valueOn_arith, mapError_bind, ← ihl]
    simp only [mapError_bind, ← ihr]
    rfl

-- ---------------------------------------------------------------------------
-- Types of operands
-- ---------------------------------------------------------------------------

/-- Whether the value is of the type, `NULL` being the only one where there is none. -/
def Value.fitsType : Option DataType → Value → Bool
  | some type, v => v.fits type
  | none, v => v.isNull

theorem Value.fitsType_type? (v : Value) : v.fitsType v.type? = true := by
  cases v <;> rfl

theorem Value.eq_type?_of_fitsType {type? : Option DataType} {v : Value}
    (h : v.fitsType type? = true) (hv : v ≠ .null) : type? = v.type? := by
  cases type? with
  | none => cases v <;> simp [fitsType, isNull] at h hv
  | some type =>
    cases v with
    | null => exact absurd rfl hv
    | boolean _ | int32 _ | string _ =>
      have htype := beq_iff_eq.1 h
      rw [← htype]
      rfl

theorem Value.type?_of_fits {type : DataType} {v : Value} (h : v.fits type = true)
    (hv : v ≠ .null) :
    v.type? = some type :=
  (eq_type?_of_fitsType (show v.fitsType (some type) = true from h) hv).symm

theorem Value.type?_of_ne_null {v : Value} (h : v ≠ .null) : ∃ type, v.type? = some type := by
  cases v with
  | null => exact absurd rfl h
  | _ => exact ⟨_, rfl⟩

theorem Value.boolean_of_type? {v : Value} (h : v.type? = some .boolean) : ∃ b, v = .boolean b := by
  cases v with
  | boolean b => exact ⟨b, rfl⟩
  | _ => cases h

theorem Value.int32_of_type? {v : Value} (h : v.type? = some .int32) : ∃ n, v = .int32 n := by
  cases v with
  | int32 n => exact ⟨n, rfl⟩
  | _ => cases h

theorem Value.string_of_type? {v : Value} (h : v.type? = some .varchar) : ∃ s, v = .string s := by
  cases v with
  | string s => exact ⟨s, rfl⟩
  | _ => cases h

def ArithOp.divides : ArithOp → Bool
  | .div | .mod => true
  | _ => false

def Expr.divides : Expr → Bool
  | .arith op left right => op.divides || left.divides || right.divides
  | .compare _ left right | .logic _ left right => left.divides || right.divides
  | .not operand => operand.divides
  | _ => false

theorem ArithOp.apply_int32 (op : ArithOp) (a b : Int32) :
    (∃ n, op.apply (.int32 a) (.int32 b) = .ok (.int32 n)) ∨
      op.divides = true ∧ op.apply (.int32 a) (.int32 b) = .error .divisionByZero := by
  cases op with
  | add | sub | mul => exact .inl ⟨_, rfl⟩
  | div | mod =>
    by_cases hb : b = 0
    · exact .inr ⟨rfl, by simp [apply, applyInt, hb, Except.map]⟩
    · exact .inl ⟨_, by simp [apply, applyInt, hb, Except.map]; rfl⟩

theorem ArithOp.resultType?_eq_some {op : ArithOp} {l r type : DataType}
    (h : op.resultType? l r = some type) :
    l = .int32 ∧ r = .int32 ∧ type = .int32 ∨
      op = .add ∧ l = .varchar ∧ r = .varchar ∧ type = .varchar := by
  cases l <;> cases r <;> cases op <;> simp_all [resultType?]

theorem ArithOp.apply_fits {op : ArithOp} {l? r? : Option DataType} {type : DataType} {l r : Value}
    (h : op.operandType? l? r? = some type) (hl : l.fitsType l? = true)
    (hr : r.fitsType r? = true) :
    (∃ v, op.apply l r = .ok v ∧ v.fits type = true) ∨
      op.divides = true ∧ op.apply l r = .error .divisionByZero := by
  by_cases hnull : l = .null ∨ r = .null
  · have happly : op.apply l r = .ok .null := by
      rcases hnull with rfl | rfl
      · rfl
      · cases l <;> rfl
    exact .inl ⟨.null, happly, rfl⟩
  · obtain ⟨hl', hr'⟩ := not_or.1 hnull
    obtain ⟨lt, hlt⟩ := Value.type?_of_ne_null hl'
    obtain ⟨rt, hrt⟩ := Value.type?_of_ne_null hr'
    rw [Value.eq_type?_of_fitsType hl hl', Value.eq_type?_of_fitsType hr hr', hlt, hrt] at h
    rcases resultType?_eq_some h with ⟨rfl, rfl, rfl⟩ | ⟨rfl, rfl, rfl, rfl⟩
    · obtain ⟨a, rfl⟩ := Value.int32_of_type? hlt
      obtain ⟨b, rfl⟩ := Value.int32_of_type? hrt
      rcases op.apply_int32 a b with ⟨n, hn⟩ | hzero
      · exact .inl ⟨.int32 n, hn, rfl⟩
      · exact .inr hzero
    · obtain ⟨a, rfl⟩ := Value.string_of_type? hlt
      obtain ⟨b, rfl⟩ := Value.string_of_type? hrt
      exact .inl ⟨.string (a ++ b), rfl, rfl⟩

/-- The outcome has the property, or it is a division by zero where there may be one. -/
def Safe {α : Type} (divides : Bool) (x : Except EvalError α) (P : α → Prop) : Prop :=
  (∃ a, x = .ok a ∧ P a) ∨ divides = true ∧ x = .error .divisionByZero

section Safe

variable {α β : Type} {divides divides' : Bool} {x : Except EvalError α} {P : α → Prop}

theorem Safe.mono (h : Safe divides x P) (hle : divides = true → divides' = true) :
    Safe divides' x P := by
  rcases h with hok | ⟨hd, hzero⟩
  · exact .inl hok
  · exact .inr ⟨hle hd, hzero⟩

theorem Safe.bind {f : α → Except EvalError β} {Q : β → Prop} (h : Safe divides x P)
    (hf : ∀ a, P a → Safe divides' (f a) Q) : Safe (divides || divides') (x >>= f) Q := by
  rcases h with ⟨a, rfl, ha⟩ | ⟨hd, rfl⟩
  · exact (hf a ha).mono (by simp +contextual)
  · exact .inr ⟨by simp [hd], rfl⟩

end Safe

theorem Scope.LowersOperand.safe {s : Scope} {e : Expr} {o : Operand} {row : List Value}
    (h : LowersOperand s e o) (hrow : s.Fits row) :
    Safe e.divides (e.valueOn s row) (·.fitsType o.type? = true) := by
  induction h with
  | @value e v hclosed hv =>
    rw [Expr.valueOn_of_isClosed s row hclosed, hv]
    exact .inl ⟨v, rfl, v.fitsType_type?⟩
  | column hc =>
    obtain ⟨v, hv, hfits, -⟩ := hrow.valueOn_field hc
    exact .inl ⟨v, hv, hfits⟩
  | arith _ _ _ htype ihl ihr =>
    rw [Expr.valueOn_arith]
    refine (ihl.bind fun l hl => ihr.bind fun r hr => ArithOp.apply_fits htype hl hr).mono ?_
    simp only [Expr.divides, Bool.or_eq_true]
    grind

end PredicateSql
