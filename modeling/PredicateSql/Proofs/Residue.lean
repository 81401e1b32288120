import PredicateSql.Proofs.FilterText
import PredicateSql.Proofs.LoweringRules

/-!
# What is left of a predicate

`Expr.residue` is the predicate after its closed branches are folded away, as a condition with the
values of closed operands in their places: a boolean field is compared with `TRUE`, a comparison
with a closed `NULL` is a test for `NULL`, and a closed left operand changes places with the right
one. `Lowers.residue`: it is what a lowered predicate stands for.
-/

namespace PredicateSql

inductive Residue
  | decided (value : Bool)
  | condition (c : Condition Value)
deriving DecidableEq

namespace Residue

def not : Residue → Residue
  | .decided value => .decided (!value)
  | .condition c => .condition (.not c)

/-- The filter of the statement: none where every row is wanted, and one bound truth value where
none is. -/
def filter? : Residue → Option (Condition Value)
  | .decided true => none
  | .decided false => some (.placeholder (.boolean false))
  | .condition c => some c

end Residue

def LogicOp.join (op : LogicOp) : Residue → Residue → Residue
  | .decided value, right => if value = op.absorbing then .decided value else right
  | left, .decided value => if value = op.absorbing then .decided value else left
  | .condition left, .condition right => .condition (.logic op left right)

/-- The comparison of an operand with another, which may be a closed `NULL`. -/
def CompareOp.condition (left : Condition Value) : CompareOp → Condition Value → Condition Value
  | .eq, .placeholder .null => .isNull false left
  | .ne, .placeholder .null => .isNull true left
  | op, right => .compare op left right

namespace Condition

def isPlaceholder {ρ : Type} : Condition ρ → Bool
  | .placeholder _ => true
  | _ => false

/-- Columns and arithmetic on them; arithmetic on placeholders alone would be closed. -/
def isOperand : Condition Value → Bool
  | .column _ | .placeholder _ => true
  | .arith _ left right =>
    left.isOperand && right.isOperand && !(left.isPlaceholder && right.isPlaceholder)
  | _ => false

/-- Whether placeholders stand for operands only: never for a truth value, alone on the left of a
comparison or in a test for `NULL`, and never for `NULL` on the right of a comparison. -/
def isResidual : Condition Value → Bool
  | .compare _ left right =>
    left.isOperand && !left.isPlaceholder && right.isOperand && right != .placeholder .null
  | .isNull _ operand => operand.isOperand && !operand.isPlaceholder
  | .not operand => operand.isResidual
  | .logic _ left right => left.isResidual && right.isResidual
  | _ => false

end Condition

theorem CompareOp.condition_of_not_placeholder (op : CompareOp) (left : Condition Value)
    {right : Condition Value} (h : right.isPlaceholder = false) :
    op.condition left right = .compare op left right := by
  cases right with
  | placeholder p => cases h
  | _ => cases op <;> rfl

namespace Expr

def operandCondition (s : Scope) (e : Expr) : Option (Condition Value) :=
  if e.isClosed then e.eval.toOption.map .placeholder
  else
    match e with
    | .member _ field => (s.table.column? s.record field).map (.column ·.name)
    | .arith op left right => do
      return .arith op (← left.operandCondition s) (← right.operandCondition s)
    | _ => none

def residue (s : Scope) (e : Expr) : Option Residue :=
  if e.isClosed then (e.evalBool "predicate").toOption.map .decided
  else
    match e with
    | .member _ field => do
      let column ← s.table.column? s.record field
      return .condition (.compare .eq (.column column.name) (.placeholder (.boolean true)))
    | .compare op left right => do
      let l ← left.operandCondition s
      let r ← right.operandCondition s
      return .condition (if left.isClosed then op.flip.condition r l else op.condition l r)
    | .logic op left right => do
      let l ← left.residue s
      if l = .decided op.absorbing then return l else return op.join l (← right.residue s)
    | .not operand => (operand.residue s).map .not
    | _ => none

theorem operandCondition_of_isClosed {s : Scope} {e : Expr} (h : e.isClosed = true) :
    e.operandCondition s = e.eval.toOption.map .placeholder := by
  unfold operandCondition
  rw [if_pos h]

theorem residue_of_isClosed {s : Scope} {e : Expr} (h : e.isClosed = true) :
    e.residue s = (e.evalBool "predicate").toOption.map .decided := by
  unfold residue
  rw [if_pos h]

end Expr

def Lowered.residue : Lowered → Residue
  | .folded value => .decided value
  | .filter f => .condition f.condition

-- ---------------------------------------------------------------------------
-- Lowering leaves the residue
-- ---------------------------------------------------------------------------

theorem Filter.ComparesValue.condition {op : CompareOp} {t : Term} {type : DataType} {v : Value}
    {f : Filter} (h : Filter.ComparesValue op t type v f) :
    f.condition = op.condition t.condition (.placeholder v) := by
  cases h with
  | isNull hop => subst hop; rfl
  | isNotNull hop => subst hop; rfl
  | bound hv _ =>
    cases v with
    | null => exact absurd rfl hv
    | _ => cases op <;> rfl

namespace Scope

variable {s : Scope} {e : Expr} {lowered : Lowered}

theorem LowersOperand.operandCondition {o : Operand} (h : LowersOperand s e o) :
    e.operandCondition s = some o.toTerm.condition := by
  induction h with
  | value hclosed hv =>
    rw [Expr.operandCondition_of_isClosed hclosed, hv]
    rfl
  | column hc =>
    simp [Expr.operandCondition, Expr.isClosed, Expr.dependence, hc]
  | arith hopen _ _ _ ihl ihr =>
    rw [Expr.operandCondition, hopen]
    simp [ihl, ihr]

theorem LowersOperand.isOperand {o : Operand} (h : LowersOperand s e o) :
    o.toTerm.condition.isOperand = true ∧ o.toTerm.condition.isPlaceholder = e.isClosed := by
  induction h with
  | value hclosed _ => exact ⟨rfl, hclosed.symm⟩
  | column => exact ⟨rfl, rfl⟩
  | arith hopen _ _ _ ihl ihr =>
    refine ⟨?_, hopen.symm⟩
    rw [Expr.isClosed_arith, ← ihl.2, ← ihr.2] at hopen
    simp [Condition.isOperand, ihl.1, ihr.1, hopen]

theorem LowersOperand.isOperand_term {t : Term} {type : DataType} {label : Label}
    (h : LowersOperand s e (.term t type label)) :
    t.condition.isOperand = true ∧ t.condition.isPlaceholder = false :=
  ⟨h.isOperand.1, h.isOperand.2.trans h.isClosed_term⟩

theorem LowersOperand.columns {o : Operand} (h : LowersOperand s e o) :
    ∀ name ∈ o.toTerm.condition.columns, name ∈ s.table.columnNames := by
  induction h with
  | value => exact nofun
  | column hc =>
    simpa [Condition.columns, Table.columnNames] using ⟨_, mem_of_column? hc, rfl⟩
  | arith _ _ _ _ ihl ihr =>
    intro name hname
    rcases List.mem_append.1 hname with hname | hname
    · exact ihl name hname
    · exact ihr name hname

theorem LowersComparison.residue {op : CompareOp} {left right : Expr} {f : Filter}
    (h : LowersComparison s op left right f) :
    (Expr.compare op left right).residue s = some (.condition f.condition) := by
  have hopen := h.isClosed
  cases h with
  | value hl hr hf =>
    simp [Expr.residue, hopen, hl.isClosed_term, hl.operandCondition,
      hr.operandCondition, hf.condition]
  | flipped hl hr hf =>
    simp [Expr.residue, hopen, hl.isClosed_value.1, hl.operandCondition, hr.operandCondition,
      hf.condition]
  | terms hl hr =>
    simp [Expr.residue, hopen, hl.isClosed_term, hl.operandCondition, hr.operandCondition,
      CompareOp.condition_of_not_placeholder _ _ hr.isOperand_term.2]

/-- A closed predicate leaves its truth value, so that only the others need a look. -/
theorem Lowers.residue_of_open (h : Lowers s e lowered)
    (hopen : e.isClosed = false → e.residue s = some lowered.residue) :
    e.residue s = some lowered.residue := by
  cases hclosed : e.isClosed with
  | false => exact hopen hclosed
  | true =>
    obtain ⟨b, rfl, hb⟩ := h.folded_of_isClosed hclosed
    rw [Expr.residue_of_isClosed hclosed, hb]
    rfl

theorem Lowers.residue (h : Lowers s e lowered) : e.residue s = some lowered.residue := by
  induction h with
  | fold hclosed hb =>
    rw [Expr.residue_of_isClosed hclosed, hb]
    rfl
  | field hc _ => simp [Expr.residue, Expr.isClosed, Expr.dependence, hc]; rfl
  | comparison h => exact h.residue
  | decideLeft hl ih =>
    refine (Lowers.decideLeft hl).residue_of_open fun hopen => ?_
    rw [Expr.residue, hopen]
    simp [ih, Lowered.residue]
  | dropLeft hl hr ihl ihr =>
    refine (Lowers.dropLeft hl hr).residue_of_open fun hopen => ?_
    rw [Expr.residue, hopen]
    simp [ihl, ihr, Lowered.residue, LogicOp.join, LogicOp.identity]
  | decideRight hl hr ihl ihr =>
    refine (Lowers.decideRight hl hr).residue_of_open fun hopen => ?_
    rw [Expr.residue, hopen]
    simp [ihl, ihr, Lowered.residue, LogicOp.join]
  | dropRight hl hr ihl ihr =>
    refine (Lowers.dropRight hl hr).residue_of_open fun hopen => ?_
    rw [Expr.residue, hopen]
    simp [ihl, ihr, Lowered.residue, LogicOp.join, LogicOp.identity]
  | logic hl hr ihl ihr =>
    refine (Lowers.logic hl hr).residue_of_open fun hopen => ?_
    rw [Expr.residue, hopen]
    simp [ihl, ihr, Lowered.residue, LogicOp.join]
  | notFolded h ih =>
    refine (Lowers.notFolded h).residue_of_open fun hopen => ?_
    rw [Expr.residue, hopen]
    simp [ih, Lowered.residue, Residue.not]
  | not h ih =>
    refine (Lowers.not h).residue_of_open fun hopen => ?_
    rw [Expr.residue, hopen]
    simp [ih, Lowered.residue, Residue.not]

theorem Lowers.isResidual {f : Filter} (h : Lowers s e (.filter f)) :
    f.condition.isResidual = true := by
  refine h.filter_rec (P := fun f => f.condition.isResidual = true) ?_ ?_ ?_ ?_ ?_
  · intro c _ _
    rfl
  · intro op e t type label v f ht hf
    obtain ⟨hoperand, hplaceholder⟩ := ht.isOperand_term
    cases hf with
    | isNull | isNotNull => simp_all [Condition.isResidual]
    | bound hv _ => simp_all [Condition.isResidual, Condition.isOperand]
  · intro op e e' l r type label label' hl hr
    obtain ⟨hoperand, hplaceholder⟩ := hl.isOperand_term
    obtain ⟨hoperand', hplaceholder'⟩ := hr.isOperand_term
    have hne : r.condition ≠ .placeholder .null := by
      intro heq
      simp [heq, Condition.isPlaceholder] at hplaceholder'
    simp_all [Condition.isResidual]
  · intro f h
    exact h
  · intro op l r hl hr
    simp [Condition.isResidual, hl, hr]

theorem Lowers.columns {f : Filter} (h : Lowers s e (.filter f)) :
    ∀ name ∈ f.condition.columns, name ∈ s.table.columnNames := by
  refine h.filter_rec (P := fun f => ∀ name ∈ f.condition.columns, name ∈ s.table.columnNames)
    ?_ ?_ ?_ ?_ ?_
  · intro c hc _
    simpa [Condition.columns, Table.columnNames] using ⟨c, hc, rfl⟩
  · intro op e t type label v f ht hf
    cases hf <;> simpa [Condition.columns] using ht.columns
  · intro op e e' l r type label label' hl hr name hname
    rcases List.mem_append.1 hname with hname | hname
    · exact hl.columns name hname
    · exact hr.columns name hname
  · intro f h
    exact h
  · intro op l r hl hr name hname
    rcases List.mem_append.1 hname with hname | hname
    · exact hl name hname
    · exact hr name hname

theorem Lowers.plain {f : Filter} (h : Lowers s e (.filter f))
    (hplain : ∀ name ∈ s.table.columnNames, Lexer.isPlain name = true) : f.condition.Plain :=
  fun name hname => hplain name (h.columns name hname)

end Scope

end PredicateSql
