import PredicateSql.Demo
import PredicateSql.Proofs.LoweringFailures
import PredicateSql.Proofs.Subtrees

/-!
# Which fields are looked up

Lowering skips the right operand of `AND` and `OR` where the left one already decides. Every field
outside the skipped parts is looked up. If lowering succeeds it has a column, even in a branch that
is dropped later, and a failure on an unknown column names such a field. What stands in a skipped
part does not matter.
-/

namespace PredicateSql

namespace Scope

/-- The path leads into the right operand of an `AND` or `OR` that its left operand decides. To that
operator it leads through `AND`, `OR` and `NOT` only. -/
inductive Skips (s : Scope) : Expr → List Expr.Turn → Prop
  | decided {op left right path} : (s.lower left).result = .ok (.folded op.absorbing) →
      Skips s (.logic op left right) (.right :: path)
  | left {op left right path} : Skips s left path → Skips s (.logic op left right) (.left :: path)
  | right {op left right path} : Skips s right path →
      Skips s (.logic op left right) (.right :: path)
  | inner {operand path} : Skips s operand path → Skips s (.not operand) (.inner :: path)

/-- At the end of the path stands a field by the name of a parameter, and it is not skipped. -/
def LooksUp (s : Scope) (e : Expr) (path : List Expr.Turn) (name field : String) : Prop :=
  e.Accesses path name field ∧ ¬ s.Skips e path

def Resolves (s : Scope) (name field : String) : Prop :=
  name = s.parameter ∧ (s.table.column? s.record field).isSome = true

variable {s : Scope} {e left right operand : Expr} {path : List Expr.Turn} {name field : String}

-- ---------------------------------------------------------------------------
-- Look-ups under each operator
-- ---------------------------------------------------------------------------

theorem looksUp_left {op : LogicOp} :
    s.LooksUp (.logic op left right) (.left :: path) name field ↔
      s.LooksUp left path name field := by
  refine and_congr Iff.rfl (not_congr ⟨fun h => ?_, .left⟩)
  cases h with
  | left h => exact h

theorem looksUp_right {op : LogicOp} :
    s.LooksUp (.logic op left right) (.right :: path) name field ↔
      (s.lower left).result ≠ .ok (.folded op.absorbing) ∧ s.LooksUp right path name field := by
  constructor
  · rintro ⟨haccess, hskip⟩
    exact ⟨fun h => hskip (.decided h), haccess, fun h => hskip (.right h)⟩
  · rintro ⟨hundecided, haccess, hskip⟩
    refine ⟨haccess, fun h => ?_⟩
    cases h with
    | decided h => exact hundecided h
    | right h => exact hskip h

theorem looksUp_inner :
    s.LooksUp (.not operand) (.inner :: path) name field ↔ s.LooksUp operand path name field := by
  refine and_congr Iff.rfl (not_congr ⟨fun h => ?_, .inner⟩)
  cases h with
  | inner h => exact h

-- ---------------------------------------------------------------------------
-- Every look-up of a lowered predicate succeeds
-- ---------------------------------------------------------------------------

theorem LowersOperand.resolves {o : Operand} (h : LowersOperand s e o)
    (haccess : e.Accesses path name field) : s.Resolves name field := by
  induction h generalizing path with
  | value hclosed _ => exact absurd haccess (Expr.fieldFree_of_isClosed hclosed path name field)
  | column hc =>
    cases path with
    | nil =>
      cases haccess
      exact ⟨rfl, by rw [hc]; rfl⟩
    | cons turn path => cases turn <;> cases haccess
  | arith _ _ _ _ ihl ihr =>
    cases path with
    | nil => cases haccess
    | cons turn path =>
      cases turn with
      | left => exact ihl haccess
      | right => exact ihr haccess
      | inner => cases haccess

theorem LowersComparison.resolves {op : CompareOp} {f : Filter}
    (h : LowersComparison s op left right f)
    (haccess : (Expr.compare op left right).Accesses path name field) : s.Resolves name field := by
  have hoperands : ∃ l r, LowersOperand s left l ∧ LowersOperand s right r := by
    cases h with
    | value hl hr _ | flipped hl hr _ | terms hl hr => exact ⟨_, _, hl, hr⟩
  obtain ⟨l, r, hl, hr⟩ := hoperands
  cases path with
  | nil => cases haccess
  | cons turn path =>
    cases turn with
    | left => exact hl.resolves haccess
    | right => exact hr.resolves haccess
    | inner => cases haccess

/-- The rules for `AND` and `OR` differ in what becomes of the operands, but all look them up. -/
theorem resolves_logic {op : LogicOp} (h : s.LooksUp (.logic op left right) path name field)
    (hleft : ∀ {path}, s.LooksUp left path name field → s.Resolves name field)
    (hright : (s.lower left).result ≠ .ok (.folded op.absorbing) →
      ∀ {path}, s.LooksUp right path name field → s.Resolves name field) :
    s.Resolves name field := by
  cases path with
  | nil => cases h.1
  | cons turn path =>
    cases turn with
    | left => exact hleft (looksUp_left.1 h)
    | right =>
      obtain ⟨hundecided, h⟩ := looksUp_right.1 h
      exact hright hundecided h
    | inner => cases h.1

theorem resolves_not (h : s.LooksUp (.not operand) path name field)
    (hoperand : ∀ {path}, s.LooksUp operand path name field → s.Resolves name field) :
    s.Resolves name field := by
  cases path with
  | nil => cases h.1
  | cons turn path =>
    cases turn with
    | left | right => cases h.1
    | inner => exact hoperand (looksUp_inner.1 h)

theorem Lowers.resolves {lowered : Lowered} (h : Lowers s e lowered)
    (hlook : s.LooksUp e path name field) : s.Resolves name field := by
  induction h generalizing path with
  | fold hclosed _ => exact absurd hlook.1 (Expr.fieldFree_of_isClosed hclosed path name field)
  | field hc _ => exact (LowersOperand.column hc).resolves hlook.1
  | comparison h => exact h.resolves hlook.1
  | decideLeft hl ihl => exact resolves_logic hlook ihl fun hundecided => absurd hl.lower hundecided
  | dropLeft _ _ ihl ihr | decideRight _ _ ihl ihr | dropRight _ _ ihl ihr | logic _ _ ihl ihr =>
    exact resolves_logic hlook ihl fun _ => ihr
  | notFolded _ ih | not _ ih => exact resolves_not hlook ih

-- ---------------------------------------------------------------------------
-- A column is unknown only to a look-up
-- ---------------------------------------------------------------------------

variable {record : String}

theorem FailsOperand.exists_accesses (h : FailsOperand s e (.unknownColumn record field)) :
    ∃ path, e.Accesses path s.parameter field ∧
      Unresolved s s.parameter field (.unknownColumn record field) := by
  generalize hx : QueryError.unknownColumn record field = x at h
  induction h with
  | value | truthValue | types => cases hx
  | field h =>
    subst hx
    cases h with
    | unknown hname hcolumn =>
      subst hname
      exact ⟨[], rfl, .unknown rfl hcolumn⟩
  | left _ _ ih =>
    obtain ⟨path, haccess, hunknown⟩ := ih hx
    exact ⟨.left :: path, haccess, hunknown⟩
  | right _ _ _ ih =>
    obtain ⟨path, haccess, hunknown⟩ := ih hx
    exact ⟨.right :: path, haccess, hunknown⟩

theorem FailsComparison.exists_accesses {op : CompareOp}
    (h : FailsComparison s op left right (.unknownColumn record field)) :
    ∃ path, (Expr.compare op left right).Accesses path s.parameter field ∧
      Unresolved s s.parameter field (.unknownColumn record field) := by
  cases h with
  | left h =>
    obtain ⟨path, haccess, hunknown⟩ := h.exists_accesses
    exact ⟨.left :: path, haccess, hunknown⟩
  | right _ h =>
    obtain ⟨path, haccess, hunknown⟩ := h.exists_accesses
    exact ⟨.right :: path, haccess, hunknown⟩
  | value _ _ h | flipped _ _ h => cases h

theorem Fails.exists_looksUp (h : Fails s e (.unknownColumn record field)) :
    ∃ path, s.LooksUp e path s.parameter field ∧
      Unresolved s s.parameter field (.unknownColumn record field) := by
  generalize hx : QueryError.unknownColumn record field = x at h
  induction h with
  | fold | fieldType | arith => cases hx
  | field h =>
    subst hx
    obtain ⟨path, haccess, hunknown⟩ := (FailsOperand.field h).exists_accesses
    exact ⟨path, ⟨haccess, fun hskip => by cases hskip⟩, hunknown⟩
  | comparison _ h =>
    subst hx
    obtain ⟨path, haccess, hunknown⟩ := h.exists_accesses
    exact ⟨path, ⟨haccess, fun hskip => by cases hskip⟩, hunknown⟩
  | left _ ih =>
    obtain ⟨path, hlook, hunknown⟩ := ih hx
    exact ⟨.left :: path, looksUp_left.2 hlook, hunknown⟩
  | right hl hundecided _ ih =>
    obtain ⟨path, hlook, hunknown⟩ := ih hx
    refine ⟨.right :: path, looksUp_right.2 ⟨fun h => hundecided ?_, hlook⟩, hunknown⟩
    exact Except.ok.inj (hl.lower.symm.trans h)
  | not _ ih =>
    obtain ⟨path, hlook, hunknown⟩ := ih hx
    exact ⟨.inner :: path, looksUp_inner.2 hlook, hunknown⟩

-- ---------------------------------------------------------------------------
-- What is skipped does not matter
-- ---------------------------------------------------------------------------

theorem lower_logic_of_decided {op : LogicOp} (right' : Expr)
    (h : (s.lower left).result = .ok (.folded op.absorbing)) :
    s.lower (.logic op left right') = s.lower (.logic op left right) := by
  rw [lower, lower]
  refine Run.bind_congr fun l hl => ?_
  obtain rfl : l = .folded op.absorbing := Except.ok.inj (hl.symm.trans h)
  simp only [if_true]

theorem Skips.lower_replaceAt (h : s.Skips e path) (new : Expr) :
    s.lower (e.replaceAt path new) = s.lower e := by
  induction h with
  | decided h => exact lower_logic_of_decided _ h
  | @left op left right path _ ih =>
    show s.lower (.logic op (left.replaceAt path new) right) = _
    rw [lower, lower, ih]
  | @right op left right path _ ih =>
    show s.lower (.logic op left (right.replaceAt path new)) = _
    rw [lower, lower, ih]
  | @inner operand path _ ih =>
    show s.lower (.not (operand.replaceAt path new)) = _
    rw [lower, lower, ih]

/-- If lowering succeeds, every field that is not skipped belongs to the parameter of the predicate
and has a column. If lowering fails on an unknown column, a field that is not skipped has none. And
any other expression in a skipped place gives the same result, with the same events. -/
theorem lower_lookups (s : Scope) (e : Expr) :
    (∀ lowered, (s.lower e).result = .ok lowered →
      ∀ path name field, s.LooksUp e path name field → s.Resolves name field) ∧
    (∀ record field, (s.lower e).result = .error (.unknownColumn record field) →
      record = s.record ∧ s.table.column? s.record field = none ∧
        ∃ path, s.LooksUp e path s.parameter field) ∧
    ∀ path new, s.Skips e path → s.lower (e.replaceAt path new) = s.lower e := by
  refine ⟨fun lowered h path name field => (Lowers.of_lower h).resolves, fun record field h => ?_,
    fun path new h => h.lower_replaceAt new⟩
  obtain ⟨path, hlook, hunknown⟩ := (Fails.of_lower h).exists_looksUp
  cases hunknown with
  | unknown _ hcolumn => exact ⟨rfl, hcolumn, path, hlook⟩

/-- A field without a column is skipped after a branch that turns out false only once its own right
operand is known, and is a failure before it. -/
theorem lower_lookups_dropped :
    let s : Scope := ⟨Demo.testType.table, "TestType", "q"⟩
    let no := Expr.logic .and (.member (.parameter "q") "BoolColumn") (.constant (.boolean false))
    let skipping := Expr.not (.logic .and no (.member (.parameter "q") "Missing"))
    let failing := Expr.not (.logic .and (.member (.parameter "q") "Missing") no)
    s.Resolves "q" "BoolColumn" ∧
    (∃ path, s.LooksUp failing path "q" "Missing") ∧
    ∀ new, s.lower (.not (.logic .and no new)) = s.lower skipping := by
  intro s no skipping failing
  have hskips : s.Skips skipping [.inner, .right] := .inner (.decided rfl)
  have hlook : s.LooksUp skipping [.inner, .left, .left] "q" "BoolColumn" :=
    looksUp_inner.2 (looksUp_left.2 (looksUp_left.2 ⟨rfl, fun h => by cases h⟩))
  exact ⟨(lower_lookups s skipping).1 (.folded true) rfl _ _ _ hlook,
    ((lower_lookups s failing).2.1 "TestType" "Missing" rfl).2.2,
    fun new => (lower_lookups s skipping).2.2 _ new hskips⟩

end Scope

end PredicateSql
