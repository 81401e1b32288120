import PredicateSql.Proofs.RowValues

/-!
# Integers of 32 bits

Arithmetic on integers against the exact results (`ArithOp.exact`). `apply_int32_eq`: an operator
keeps of the exact result what fits into 32 bits, and only a zero divisor fails.
`Expr.eval_arithmetic` puts the nodes together: over integer constants the program and the database
compute the same value, on columns, in literals and parameters, and through lowering.
-/

namespace PredicateSql

-- ---------------------------------------------------------------------------
-- One operator
-- ---------------------------------------------------------------------------

namespace ArithOp

/-- The result over all integers. A quotient is cut toward zero. -/
def exact : ArithOp → Int → Int → Int
  | .add, a, b => a + b
  | .sub, a, b => a - b
  | .mul, a, b => a * b
  | .div, a, b => a.tdiv b
  | .mod, a, b => a.tmod b

theorem apply_int32_eq (op : ArithOp) (a b : Int32) :
    op.apply (.int32 a) (.int32 b) =
      if op.divides = true ∧ b = 0 then .error .divisionByZero
      else .ok (.int32 (Int32.ofInt (op.exact a.toInt b.toInt))) := by
  have hword {n : Int32} {exact : Int} (h : n.toInt = exact.bmod Int32.size) :
      n = Int32.ofInt exact :=
    Int32.toInt_inj.1 (h.trans Int32.toInt_ofInt.symm)
  cases op with
  | add => exact congrArg (Except.ok ∘ Value.int32) (hword (Int32.toInt_add a b))
  | sub => exact congrArg (Except.ok ∘ Value.int32) (hword (Int32.toInt_sub a b))
  | mul => exact congrArg (Except.ok ∘ Value.int32) (hword (Int32.toInt_mul a b))
  | div =>
    by_cases hb : b = 0
    · simp [apply, applyInt, divides, hb, Except.map]
    · simp [apply, applyInt, divides, hb, Except.map, exact, hword (Int32.toInt_div a b)]
  | mod =>
    have hmod : (a % b).toInt = (a.toInt.tmod b.toInt).bmod Int32.size := by
      rw [← Int32.toInt_mod]
      exact (Int32.toInt_bmod_size (a % b)).symm
    by_cases hb : b = 0
    · simp [apply, applyInt, divides, hb, Except.map]
    · simp [apply, applyInt, divides, hb, Except.map, exact, hword hmod]

end ArithOp

theorem congruent_iff_eq_ofInt (x n : Int) :
    -2147483648 ≤ n ∧ n ≤ 2147483647 ∧ n ≡ x [ZMOD 4294967296] ↔ n = (Int32.ofInt x).toInt := by
  have hlow := (Int32.ofInt x).le_toInt
  have hhigh := (Int32.ofInt x).toInt_lt
  have hmod : (Int32.ofInt x).toInt % 4294967296 = x % 4294967296 := by
    rw [Int32.toInt_ofInt]
    exact Int.bmod_emod
  rw [Int.ModEq]
  omega

/-- What a division of words gives: the dividend is put together again from the quotient and the
remainder. Only the least integer by `-1` has a quotient that does not fit. -/
structure Divided (a b q r : Int32) : Prop where
  sum : q * b + r = a
  small : |r.toInt| < |b.toInt|
  sign : r = 0 ∨ r.toInt.sign = a.toInt.sign
  quotient : ¬(a = -2147483648 ∧ b = -1) → q.toInt = a.toInt.tdiv b.toInt
  least : a = -2147483648 → b = -1 → q = -2147483648 ∧ r = 0

theorem Divided.of_ne_zero (a : Int32) {b : Int32} (hb : b ≠ 0) : Divided a b (a / b) (a % b) where
  sum := by
    rw [← Int32.toInt_inj, Int32.toInt_add, Int32.toInt_mul, Int32.toInt_div, Int32.toInt_mod,
      Int.bmod_mul_bmod, Int.bmod_add_bmod, Int.tdiv_mul_add_tmod]
    exact Int32.toInt_bmod a
  small := by
    have hpos : 0 < b.toInt.natAbs := by
      have hzero : b.toInt ≠ 0 := fun h => hb (Int32.toInt_inj.1 h)
      omega
    have hlt := Nat.mod_lt a.toInt.natAbs hpos
    rw [← Int.natAbs_tmod] at hlt
    rw [Int32.toInt_mod, Int.abs_eq_natAbs, Int.abs_eq_natAbs]
    exact_mod_cast hlt
  sign := by
    have hsign := Int.sign_tmod a.toInt b.toInt
    rw [← Int32.toInt_mod] at hsign
    split at hsign
    · exact .inl (Int32.toInt_inj.1 (Int.sign_eq_zero_iff_zero.1 hsign))
    · exact .inr hsign
  quotient h := by
    by_cases ha : a = -2147483648
    · exact Int32.toInt_div_of_ne_right a b fun hb => h ⟨ha, hb⟩
    · exact Int32.toInt_div_of_ne_left a b ha
  least := by
    rintro rfl rfl
    decide

-- ---------------------------------------------------------------------------
-- Expressions
-- ---------------------------------------------------------------------------

namespace Expr

def isArithmetic : Expr → Bool
  | .constant (.int32 _) => true
  | .arith _ left right => left.isArithmetic && right.isArithmetic
  | _ => false

/-- The value over all integers, where each result is brought back into 32 bits before it is used.
There is none where a divisor is zero. -/
def wrapped? : Expr → Option Int
  | .constant (.int32 n) => some n.toInt
  | .arith op left right => do
    let l ← left.wrapped?
    let r ← right.wrapped?
    if op.divides && r == 0 then none else some ((op.exact l r).bmod 4294967296)
  | _ => none

theorem eval_arith (op : ArithOp) (left right : Expr) : (Expr.arith op left right).eval =
    left.eval >>= fun l => right.eval >>= fun r => op.apply l r := rfl

theorem isArithmetic_arith (op : ArithOp) (left right : Expr) :
    (Expr.arith op left right).isArithmetic = (left.isArithmetic && right.isArithmetic) := rfl

theorem eval_of_isArithmetic {e : Expr} (h : e.isArithmetic = true) :
    (∃ n, e.eval = .ok (.int32 n) ∧ e.wrapped? = some n.toInt) ∨
      e.eval = .error .divisionByZero ∧ e.wrapped? = none := by
  induction e with
  | constant v =>
    cases v with
    | int32 n => exact .inl ⟨n, rfl, rfl⟩
    | _ => cases h
  | arith op left right ihl ihr =>
    rw [isArithmetic_arith, Bool.and_eq_true] at h
    rw [eval_arith, wrapped?]
    rcases ihl h.1 with ⟨a, ha, ha'⟩ | ⟨ha, ha'⟩
    · rcases ihr h.2 with ⟨b, hb, hb'⟩ | ⟨hb, hb'⟩
      · -- Both operands have a value, and only a zero divisor is left to fail.
        have hzero : b.toInt = 0 ↔ b = 0 := ⟨fun h => Int32.toInt_inj.1 h, fun h => by rw [h]; rfl⟩
        simp only [ha, hb, ha', hb', ok_bind, ArithOp.apply_int32_eq, Option.bind_eq_bind,
          Option.bind_some, Bool.and_eq_true, beq_iff_eq, hzero]
        split
        · exact .inr ⟨rfl, rfl⟩
        · exact .inl ⟨_, rfl, by rw [Int32.toInt_ofInt]⟩
      · exact .inr ⟨by rw [ha, hb]; rfl, by rw [ha', hb']; rfl⟩
    · exact .inr ⟨by rw [ha]; rfl, by rw [ha']; rfl⟩
  | _ => cases h

end Expr

/-- The condition computes the expression: where the expression has a constant, it has a column,
a literal or a placeholder of that value. -/
inductive Condition.Computes {ρ : Type} (env : Env ρ) : Condition ρ → Expr → Prop
  | column {name v} : env.column name = .ok v → Computes env (.column name) (.constant v)
  | literal {v} : Computes env (.literal v) (.constant v)
  | placeholder {p v} : env.bound p = .ok v → Computes env (.placeholder p) (.constant v)
  | arith {op l r left right} : Computes env l left → Computes env r right →
      Computes env (.arith op l r) (.arith op left right)

theorem Condition.Computes.eval {ρ : Type} {env : Env ρ} {c : Condition ρ} {e : Expr}
    (h : Computes env c e) : c.eval env = e.eval.mapError .evaluation := by
  induction h with
  | column hv => exact hv
  | literal => rfl
  | placeholder hv => exact hv
  | arith _ _ ihl ihr =>
    rw [Condition.eval_arith, Expr.eval_arith, mapError_bind, ihl]
    simp only [mapError_bind, ihr]

-- ---------------------------------------------------------------------------
-- Lowering
-- ---------------------------------------------------------------------------

theorem Table.column?_of_valueOf? {t : Table} {record field : String} {row : List Value} {v : Value}
    (h : t.valueOf? record field row = some v) : ∃ c, t.column? record field = some c := by
  rw [valueOf?] at h
  split at h
  next hrecord =>
    obtain ⟨p, hp, -⟩ := Option.map_eq_some_iff.1 h
    have hsome : (t.columns.find? (·.field == field)).isSome := by
      rw [List.find?_isSome]
      exact ⟨p.1, (List.of_mem_zip (List.mem_of_find?_eq_some hp)).1,
        by simpa using List.find?_some hp⟩
    rw [column?, if_pos hrecord]
    exact Option.isSome_iff_exists.1 hsome
  next => cases h

namespace Scope

/-- The operand is left to the database as an integer, or a divisor was found to be zero before. -/
def LowersInteger (s : Scope) (row : List Value) (e : Expr) : Prop :=
  (∃ o, LowersOperand s e o ∧ o.type? = some .int32) ∨
    s.operand e = .error (.evaluation .divisionByZero) ∧ e.valueOn s row = .error .divisionByZero

variable {s : Scope} {row : List Value}

theorem LowersInteger.of_isClosed {e : Expr} (hclosed : e.isClosed = true)
    (he : e.isArithmetic = true) : LowersInteger s row e := by
  rcases Expr.eval_of_isArithmetic he with ⟨n, hn, -⟩ | ⟨hzero, -⟩
  · exact .inl ⟨.value (.int32 n), .value hclosed hn, rfl⟩
  · refine .inr ⟨?_, by rw [Expr.valueOn_of_isClosed s row hclosed, hzero]⟩
    rw [operand_of_isClosed hclosed, Expr.hostValue, hzero]
    rfl

theorem LowersInteger.of_field {name field : String} (hrow : s.Fits row)
    (he : ((Expr.member (.parameter name) field).onRow s row).isArithmetic = true) :
    LowersInteger s row (.member (.parameter name) field) := by
  by_cases hname : name = s.parameter
  · subst hname
    cases hv : s.table.valueOf? s.record field row with
    | none =>
      simp only [Expr.onRow, hv, if_true] at he
      cases he
    | some v =>
      obtain ⟨c, hc⟩ := Table.column?_of_valueOf? hv
      obtain ⟨v', hv', hfits, -⟩ := s.table.valueOf?_of_column? hc hrow.nodup hrow.accepts
      obtain rfl : v = v' := Option.some.inj (hv.symm.trans hv')
      simp only [Expr.onRow, hv, if_true] at he
      have htype : c.type = .int32 := by
        cases v with
        | int32 n => exact (beq_iff_eq.1 hfits).symm
        | _ => cases he
      exact .inl ⟨_, .column hc, congrArg some htype⟩
  · simp only [Expr.onRow, hname, if_false] at he
    cases he

theorem LowersInteger.arith {op : ArithOp} {left right : Expr}
    (hopen : (Expr.arith op left right).isClosed = false) (hl : LowersInteger s row left)
    (hr : LowersInteger s row right) (hleft : (left.onRow s row).isArithmetic = true) :
    LowersInteger s row (.arith op left right) := by
  rcases hl with ⟨l, hl, hlt⟩ | ⟨hl, hl'⟩
  · rcases hr with ⟨r, hr, hrt⟩ | ⟨hr, hr'⟩
    · have htype : op.operandType? l.type? r.type? = some .int32 := by
        rw [hlt, hrt]
        cases op <;> rfl
      exact .inl ⟨_, .arith hopen hl hr htype, rfl⟩
    · refine .inr ⟨by simp [Scope.operand, hopen, hl.operand, hr, ok_bind]; rfl, ?_⟩
      -- the left operand may divide by zero as well, but only in the database
      rw [Expr.valueOn_arith, hr', Expr.valueOn]
      rcases Expr.eval_of_isArithmetic hleft with ⟨n, hn, -⟩ | ⟨hzero, -⟩
      · rw [hn]
        rfl
      · rw [hzero]
        rfl
  · refine .inr ⟨by simp [Scope.operand, hopen, hl]; rfl, ?_⟩
    rw [Expr.valueOn_arith, hl']
    rfl

theorem LowersInteger.of_isArithmetic {e : Expr} (hrow : s.Fits row)
    (he : (e.onRow s row).isArithmetic = true) : LowersInteger s row e := by
  induction e with
  | constant v => exact .of_isClosed rfl he
  | member owner field =>
    cases owner with
    | parameter name => exact .of_field hrow he
    | capture c => cases he
  | arith op left right ihl ihr =>
    obtain ⟨hl, hr⟩ := Bool.and_eq_true_iff.1 he
    cases hclosed : (Expr.arith op left right).isClosed with
    | true =>
      rw [Expr.onRow_of_isClosed s row hclosed] at he
      exact .of_isClosed hclosed he
    | false => exact .arith hclosed (ihl hl) (ihr hr) hl
  | _ => cases he

end Scope

-- ---------------------------------------------------------------------------
-- The program and the database
-- ---------------------------------------------------------------------------

/-- A sum, a difference or a product is the one word congruent to the exact result. A division fails
only by zero. Arithmetic on constants therefore has the value that wrapping gives, or it divides by
zero; so it does in the database, where columns hold the constants, and also when the program leaves
an expression on such columns to it. -/
theorem Expr.eval_arithmetic (op : ArithOp) (a b : Int32) {e : Expr} (he : e.isArithmetic = true) :
    (op.divides = false → ∃ r : Int32, op.apply (.int32 a) (.int32 b) = .ok (.int32 r) ∧
      ∀ n : Int, -2147483648 ≤ n ∧ n ≤ 2147483647 ∧
        n ≡ op.exact a.toInt b.toInt [ZMOD 4294967296] ↔ n = r.toInt) ∧
    (op.divides = true → (op.apply (.int32 a) (.int32 b) = .error .divisionByZero ↔ b = 0)) ∧
    (b ≠ 0 → ∃ q r, ArithOp.div.apply (.int32 a) (.int32 b) = .ok (.int32 q) ∧
      ArithOp.mod.apply (.int32 a) (.int32 b) = .ok (.int32 r) ∧ Divided a b q r) ∧
    ((∃ n : Int32, e.eval = .ok (.int32 n) ∧ e.wrapped? = some n.toInt ∧
        -2147483648 ≤ n.toInt ∧ n.toInt ≤ 2147483647) ∨
      e.eval = .error .divisionByZero ∧ e.wrapped? = none) ∧
    (∀ (ρ : Type) (env : Env ρ) (c : Condition ρ), c.Computes env e →
      c.eval env = e.eval.mapError .evaluation) ∧
    ∀ (s : Scope) (row : List Value) (f : Expr), s.Fits row → f.onRow s row = e →
      (∃ o, s.operand f = .ok o ∧
        o.toTerm.condition.eval ((StoredTable.ofTable s.table).rowEnv row) =
          e.eval.mapError .evaluation) ∨
      s.operand f = .error (.evaluation .divisionByZero) ∧ e.eval = .error .divisionByZero := by
  refine ⟨fun hop => ?_, fun hop => ?_, fun hb => ?_, ?_, fun ρ env c hc => hc.eval, ?_⟩
  · refine ⟨Int32.ofInt (op.exact a.toInt b.toInt), ?_, congruent_iff_eq_ofInt _⟩
    rw [ArithOp.apply_int32_eq, if_neg (by simp [hop])]
  · rw [ArithOp.apply_int32_eq]
    by_cases hb : b = 0 <;> simp [hop, hb]
  · refine ⟨a / b, a % b, ?_, ?_, .of_ne_zero a hb⟩
    · simp [ArithOp.apply, ArithOp.applyInt, hb, Except.map]
    · simp [ArithOp.apply, ArithOp.applyInt, hb, Except.map]
  · rcases eval_of_isArithmetic he with ⟨n, hn, hn'⟩ | hzero
    · exact .inl ⟨n, hn, hn', n.le_toInt, Int.le_of_lt_add_one n.toInt_lt⟩
    · exact .inr hzero
  · rintro s row f hrow rfl
    rcases Scope.LowersInteger.of_isArithmetic hrow he with ⟨o, ho, -⟩ | hzero
    · exact .inl ⟨o, ho.operand, ho.eval hrow⟩
    · exact .inr hzero

theorem Expr.eval_arithmetic_least :
    ∃ o, (Scope.mk ⟨"Pair", "pairs", [⟨"X", "x", .int32⟩, ⟨"Y", "y", .int32⟩]⟩ "Pair" "p").operand
        (.arith .mod (.arith .div (.member (.parameter "p") "X") (.member (.parameter "p") "Y"))
          (.constant (.int32 (-7)))) = .ok o ∧
      o.toTerm.condition.eval ((StoredTable.ofTable
        ⟨"Pair", "pairs", [⟨"X", "x", .int32⟩, ⟨"Y", "y", .int32⟩]⟩).rowEnv
          [.int32 (-2147483648), .int32 (-1)]) = .ok (.int32 (-2)) := by
  obtain ⟨-, -, -, -, -, hlowered⟩ := Expr.eval_arithmetic .mul 65536 (-65536)
    (e := .arith .mod (.arith .div (.constant (.int32 (-2147483648))) (.constant (.int32 (-1))))
      (.constant (.int32 (-7)))) rfl
  rcases hlowered ⟨⟨"Pair", "pairs", [⟨"X", "x", .int32⟩, ⟨"Y", "y", .int32⟩]⟩, "Pair", "p"⟩
    [.int32 (-2147483648), .int32 (-1)]
    (.arith .mod (.arith .div (.member (.parameter "p") "X") (.member (.parameter "p") "Y"))
      (.constant (.int32 (-7)))) ⟨by decide, by decide⟩ rfl with ⟨o, ho, heval⟩ | ⟨-, hzero⟩
  · exact ⟨o, ho, heval⟩
  · cases hzero

end PredicateSql
