import PredicateSql.Condition.Eval
import PredicateSql.Proofs.Rendering
import PredicateSql.Proofs.Scanning

/-!
# Placeholders in order

A condition with the bound values themselves in their places (`Condition Value`) and the one that
is parsed have the same tree; only the placeholders differ. `eval_relabel`: they evaluate alike,
because the placeholder at each place is bound to the value there (`bind_parameters`).
-/

namespace PredicateSql

namespace Condition

variable {ρ σ : Type}

def placeholders : Condition ρ → List ρ
  | .column _ | .literal _ => []
  | .placeholder p => [p]
  | .compare _ left right | .arith _ left right | .logic _ left right =>
    left.placeholders ++ right.placeholders
  | .not operand | .negate operand | .isNull _ operand => operand.placeholders

/-- The same tree with the placeholders that `g` gives, from left to right and from `first` on. -/
def relabel (g : Nat → σ) (first : Nat) : Condition ρ → Condition σ
  | .column name => .column name
  | .literal value => .literal value
  | .placeholder _ => .placeholder (g first)
  | .compare op left right =>
    .compare op (left.relabel g first) (right.relabel g (first + left.placeholders.length))
  | .arith op left right =>
    .arith op (left.relabel g first) (right.relabel g (first + left.placeholders.length))
  | .logic op left right =>
    .logic op (left.relabel g first) (right.relabel g (first + left.placeholders.length))
  | .not operand => .not (operand.relabel g first)
  | .negate operand => .negate (operand.relabel g first)
  | .isNull negated operand => .isNull negated (operand.relabel g first)

theorem placeholders_relabel (g : Nat → σ) (c : Condition ρ) (first : Nat) :
    (c.relabel g first).placeholders = (List.range' first c.placeholders.length).map g := by
  induction c generalizing first with
  | column name => rfl
  | literal value => rfl
  | placeholder p => rfl
  | compare op left right ihl ihr | arith op left right ihl ihr | logic op left right ihl ihr =>
    simp [relabel, placeholders, ihl, ihr, ← List.range'_append_1]
  | not operand ih | negate operand ih | isNull negated operand ih =>
    simp [relabel, placeholders, ih]

/-- Evaluation looks at what a placeholder is bound to and at nothing else of it. -/
theorem eval_relabel {env : Env σ} {env' : Env ρ} (hcolumn : env.column = env'.column)
    {g : Nat → σ} {first : Nat} (c : Condition ρ)
    (hbound : ∀ k p, c.placeholders[k]? = some p → env.bound (g (first + k)) = env'.bound p) :
    (c.relabel g first).eval env = c.eval env' := by
  induction c generalizing first with
  | column name => rw [relabel, eval_column, eval_column, hcolumn]
  | literal value => rfl
  | placeholder p => exact hbound 0 p rfl
  | compare op left right ihl ihr | arith op left right ihl ihr | logic op left right ihl ihr =>
    have hl : (left.relabel g first).eval env = left.eval env' := by
      refine ihl fun k p hk => hbound k p ?_
      rw [placeholders, List.getElem?_append_left (List.getElem?_eq_some_iff.1 hk).1, hk]
    have hr : (right.relabel g (first + left.placeholders.length)).eval env = right.eval env' := by
      refine ihr fun k p hk => ?_
      rw [Nat.add_assoc]
      refine hbound _ p ?_
      rw [placeholders, List.getElem?_append_right (Nat.le_add_right _ _),
        Nat.add_sub_cancel_left, hk]
    simp only [relabel, eval_compare, eval_arith, eval_logic, hl, hr]
  | not operand ih => rw [relabel, eval_not, eval_not, ih hbound]
  | negate operand ih => rw [relabel, eval_negate, eval_negate, ih hbound]
  | isNull negated operand ih => rw [relabel, eval_isNull, eval_isNull, ih hbound]

end Condition

def Style.reference : Style → Nat → Reference
  | .question, index => .positional index
  | .numbered, index => .numbered (index + 1)
  | .named, index => .named ("p" ++ toString index)

def Style.bareBefore : Style → Nat → Nat
  | .question, index => index
  | .numbered, _ | .named, _ => 0

theorem Style.bareBefore_zero (style : Style) : style.bareBefore 0 = 0 := by
  cases style <;> rfl

theorem Style.bareBefore_le (style : Style) (index : Nat) : style.bareBefore index ≤ index := by
  cases style <;> simp [bareBefore]

theorem toString_inj {m n : Nat} (h : toString m = toString n) : m = n := by
  have hdigits : Nat.toDigits 10 m = Nat.toDigits 10 n := by
    simpa [Nat.toString_eq_repr] using congrArg String.toList h
  calc m = Nat.ofDigitChars 10 (Nat.toDigits 10 m) 0 := Nat.ofDigitChars_ten_toDigits.symm
    _ = Nat.ofDigitChars 10 (Nat.toDigits 10 n) 0 := by rw [hdigits]
    _ = n := Nat.ofDigitChars_ten_toDigits

theorem Style.spell_inj {style : Style} (hs : style ≠ .question) {m n : Nat}
    (h : style.spell m = style.spell n) : m = n := by
  cases style with
  | question => exact absurd rfl hs
  | numbered =>
    have := toString_inj ((String.append_right_inj _).1 h)
    omega
  | named => exact toString_inj ((String.append_right_inj _).1 h)

theorem Style.find?_parameters {style : Style} (hs : style ≠ .question) (index : Nat) {k : Nat}
    {vs : List Value} {v : Value} (h : vs[k]? = some v) :
    (style.parameters index vs).find? (·.placeholder == style.spell (index + k)) =
      some ⟨style.spell (index + k), v⟩ := by
  induction vs generalizing index k with
  | nil => simp at h
  | cons w vs ih =>
    cases k with
    | zero =>
      obtain rfl : w = v := by simpa using h
      simp [parameters]
    | succ k =>
      have hne : style.spell index ≠ style.spell (index + (k + 1)) := fun he => by
        have := spell_inj hs he
        omega
      have hrest := ih (index + 1) (k := k) (by simpa using h)
      rw [Nat.add_assoc, Nat.add_comm 1 k] at hrest
      simp [parameters, hne, hrest]

theorem Reference.bind_parameters (style : Style) {k : Nat} {vs : List Value} {v : Value}
    (h : vs[k]? = some v) : (style.reference k).bind (style.parameters 0 vs) = .ok v := by
  cases style with
  | question => simp [Style.reference, bind, Style.getElem?_parameters, h]
  | numbered =>
    have hfind := Style.find?_parameters (show Style.numbered ≠ .question by decide) 0 h
    simp only [Nat.zero_add, Style.spell] at hfind
    simp only [Style.reference, bind, hfind]
  | named =>
    have hfind := Style.find?_parameters (show Style.named ≠ .question by decide) 0 h
    have hname : "@" ++ ("p" ++ toString k) = "@p" ++ toString k := by
      rw [← String.append_assoc]
      rfl
    simp only [Nat.zero_add, Style.spell] at hfind
    simp only [Style.reference, bind, hname, hfind]

end PredicateSql
