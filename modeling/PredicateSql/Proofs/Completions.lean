import PredicateSql.Proofs.Store

/-!
# Filling in NULL

Whoever learns what a `NULL` stands for may write the value in its place, in a row or among the
parameters (`Value.Completes`). A condition that does not test for `NULL` keeps every definite value
that it had: a lemma `completes` for each operator, and `Env.Completes.eval` for all conditions.
Hence the rows that it selects stay selected.
-/

namespace PredicateSql

/-- The second value is the first one, or stands where that was `NULL`. -/
def Value.Completes (v v' : Value) : Prop :=
  v = .null ∨ v' = v

structure Parameter.Completes (p p' : Parameter) : Prop where
  placeholder : p'.placeholder = p.placeholder
  value : p.value.Completes p'.value

structure Row.Completes (r r' : Row) : Prop where
  columns : r'.columns = r.columns
  values : List.Forall₂ Value.Completes r.values r'.values

structure StoredTable.Completes (t t' : StoredTable) : Prop where
  columns : t'.columns = t.columns
  rows : List.Forall₂ (List.Forall₂ Value.Completes) t.rows t'.rows

def Truth.Completes (t t' : Truth) : Prop :=
  t = none ∨ t' = t

instance (t t' : Truth) : Decidable (t.Completes t') :=
  inferInstanceAs (Decidable (t = none ∨ t' = t))

def Condition.testsNull {ρ : Type} : Condition ρ → Bool
  | .column _ | .literal _ | .placeholder _ => false
  | .compare _ left right | .arith _ left right | .logic _ left right =>
    left.testsNull || right.testsNull
  | .not operand | .negate operand => operand.testsNull
  | .isNull _ _ => true

def Both {ε α β : Type} (R : α → β → Prop) (x : Except ε α) (y : Except ε β) : Prop :=
  ∀ a b, x = .ok a → y = .ok b → R a b

section Both

variable {ε α β γ δ : Type} {R : α → β → Prop} {S : γ → δ → Prop}

theorem Both.ok {a : α} {b : β} (h : R a b) : Both (ε := ε) R (.ok a) (.ok b) := by
  rintro _ _ ⟨⟩ ⟨⟩
  exact h

theorem Both.bind {x : Except ε α} {y : Except ε β} {f : α → Except ε γ} {g : β → Except ε δ}
    (h : Both R x y) (hfg : ∀ a b, R a b → Both S (f a) (g b)) : Both S (x >>= f) (y >>= g) := by
  intro c d hc hd
  obtain ⟨a, ha, hc⟩ := bind_eq_ok.1 hc
  obtain ⟨b, hb, hd⟩ := bind_eq_ok.1 hd
  exact hfg a b (h a b ha hb) c d hc hd

end Both

-- ---------------------------------------------------------------------------
-- Operators
-- ---------------------------------------------------------------------------

section Operators

variable {ε : Type} {l l' r r' v v' : Value}

theorem Both.null (y : Except ε Value) : Both Value.Completes (.ok .null) y := by
  rintro _ _ ⟨⟩ -
  exact .inl rfl

theorem Both.refl (x : Except ε Value) : Both Value.Completes x x := by
  intro v v' hv hv'
  rw [hv] at hv'
  cases hv'
  exact .inr rfl

theorem Truth.Completes.toValue {t t' : Truth} (h : t.Completes t') :
    t.toValue.Completes t'.toValue := by
  rcases h with rfl | rfl
  · exact .inl rfl
  · exact .inr rfl

theorem Truth.Completes.not {t t' : Truth} (h : t.Completes t') :
    Truth.Completes (t.map (!·)) (t'.map (!·)) := by
  rcases h with rfl | rfl
  · exact .inl rfl
  · exact .inr rfl

theorem Value.Completes.truth (h : v.Completes v') :
    Both Truth.Completes (Truth.ofValue v) (Truth.ofValue v') := by
  intro t t' ht ht'
  rcases h with rfl | rfl
  · cases ht
    exact .inl rfl
  · rw [ht] at ht'
    cases ht'
    exact .inr rfl

theorem CompareOp.completes (op : CompareOp) (hl : l.Completes l') (hr : r.Completes r') :
    Both (ε := ConditionError) Value.Completes
      (if l.isNull || r.isNull then pure .null
        else (l.compare r).mapError .evaluation >>= fun o => pure (.boolean (op.holds o)))
      (if l'.isNull || r'.isNull then pure .null
        else (l'.compare r').mapError .evaluation >>= fun o => pure (.boolean (op.holds o))) := by
  rcases hl with rfl | rfl
  · exact .null _
  rcases hr with rfl | rfl
  · have hnull : (l'.isNull || Value.null.isNull) = true := Bool.or_true _
    rw [if_pos hnull]
    exact .null _
  · exact .refl _

theorem ArithOp.completes (op : ArithOp) (hl : l.Completes l') (hr : r.Completes r') :
    Both Value.Completes ((op.apply l r).mapError ConditionError.evaluation)
      ((op.apply l' r').mapError .evaluation) := by
  rcases hl with rfl | rfl
  · exact .null _
  rcases hr with rfl | rfl
  · have happly : op.apply l' .null = .ok .null := by cases l' <;> rfl
    rw [happly]
    exact .null _
  · exact .refl _

theorem LogicOp.applyTruth_absorbing (op : LogicOp) (t : Truth) :
    op.applyTruth (some op.absorbing) t = some op.absorbing := by
  revert t
  cases op <;> decide

theorem LogicOp.applyTruth_completes (op : LogicOp) {l l' r r' : Truth} (hl : l.Completes l')
    (hr : r.Completes r') : (op.applyTruth l r).Completes (op.applyTruth l' r') := by
  have hnone : ∀ t t' : Truth, (op.applyTruth none t).Completes (op.applyTruth t' t) ∧
      (op.applyTruth t none).Completes (op.applyTruth t t') := by
    cases op <;> decide
  rcases hl with rfl | rfl
  · rcases hr with rfl | rfl
    · exact .inl rfl
    · exact (hnone _ _).1
  · rcases hr with rfl | rfl
    · exact (hnone _ _).2
    · exact .inr rfl

/-- A left operand that decides only once it is filled in leaves no definite value behind but the
one it decides for. -/
theorem LogicOp.completes (op : LogicOp) {t t' : Truth} {x x' : Except ConditionError Value}
    (ht : t.Completes t') (hx : Both Value.Completes x x') :
    Both Value.Completes
      (if t = some op.absorbing then pure (.boolean op.absorbing)
        else x >>= fun r => Truth.ofValue r >>= fun r => pure (op.applyTruth t r).toValue)
      (if t' = some op.absorbing then pure (.boolean op.absorbing)
        else x' >>= fun r => Truth.ofValue r >>= fun r => pure (op.applyTruth t' r).toValue) := by
  by_cases hdecides : t = some op.absorbing
  · obtain rfl : t' = t := by
      rcases ht with rfl | rfl
      · cases hdecides
      · rfl
    rw [if_pos hdecides, if_pos hdecides]
    exact .refl _
  rw [if_neg hdecides]
  by_cases hdecides' : t' = some op.absorbing
  · subst hdecides'
    rw [if_pos rfl]
    intro v v' hv hv'
    obtain ⟨r, -, hv⟩ := bind_eq_ok.1 hv
    obtain ⟨tr, -, hv⟩ := bind_eq_ok.1 hv
    have hcompletes := (op.applyTruth_completes ht (.inr (Eq.refl tr))).toValue
    rw [op.applyTruth_absorbing] at hcompletes
    cases hv
    cases hv'
    exact hcompletes
  · rw [if_neg hdecides']
    exact hx.bind fun r r' hr => hr.truth.bind fun r r' hr =>
      .ok (op.applyTruth_completes ht hr).toValue

end Operators

-- ---------------------------------------------------------------------------
-- Conditions
-- ---------------------------------------------------------------------------

structure Env.Completes {ρ : Type} (env env' : Env ρ) : Prop where
  column : ∀ name, Both Value.Completes (env.column name) (env'.column name)
  bound : ∀ p, Both Value.Completes (env.bound p) (env'.bound p)

theorem Env.Completes.eval {ρ : Type} {env env' : Env ρ} (h : env.Completes env') {c : Condition ρ}
    (hc : c.testsNull = false) : Both Value.Completes (c.eval env) (c.eval env') := by
  induction c with
  | column name => exact h.column name
  | literal v => exact .refl (.ok v)
  | placeholder p => exact h.bound p
  | compare op left right ihl ihr =>
    simp only [Condition.testsNull, Bool.or_eq_false_iff] at hc
    rw [Condition.eval_compare, Condition.eval_compare]
    exact (ihl hc.1).bind fun l l' hl => (ihr hc.2).bind fun r r' hr => op.completes hl hr
  | arith op left right ihl ihr =>
    simp only [Condition.testsNull, Bool.or_eq_false_iff] at hc
    rw [Condition.eval_arith, Condition.eval_arith]
    exact (ihl hc.1).bind fun l l' hl => (ihr hc.2).bind fun r r' hr => op.completes hl hr
  | logic op left right ihl ihr =>
    simp only [Condition.testsNull, Bool.or_eq_false_iff] at hc
    rw [Condition.eval_logic, Condition.eval_logic]
    exact (ihl hc.1).bind fun l l' hl => hl.truth.bind fun t t' ht => op.completes ht (ihr hc.2)
  | not operand ih =>
    rw [Condition.eval_not, Condition.eval_not]
    exact (ih hc).bind fun v v' hv => hv.truth.bind fun t t' ht => .ok ht.not.toValue
  | negate operand ih =>
    rw [Condition.eval_negate, Condition.eval_negate]
    refine (ih hc).bind fun v v' hv => ?_
    rcases hv with rfl | rfl
    · exact .null _
    · exact .refl _
  | isNull negated operand => cases hc

theorem Condition.selects_eq_true {ρ : Type} {env : Env ρ} {c : Condition ρ} :
    c.selects env = .ok true ↔ c.eval env = .ok (.boolean true) := by
  simp only [selects, bind_eq_ok, pure_eq_ok, beq_iff_eq]
  constructor
  · rintro ⟨v, hv, t, ht, rfl⟩
    cases v <;> cases ht
    exact hv
  · intro hv
    exact ⟨_, hv, _, rfl, rfl⟩

theorem Env.Completes.selects {ρ : Type} {env env' : Env ρ} (h : env.Completes env')
    {c : Condition ρ} (hc : c.testsNull = false) (hselects : c.selects env = .ok true) {v' : Value}
    (hv' : c.eval env' = .ok v') : c.selects env' = .ok true := by
  rcases h.eval hc _ _ (Condition.selects_eq_true.1 hselects) hv' with hnull | rfl
  · cases hnull
  · exact Condition.selects_eq_true.2 hv'

-- ---------------------------------------------------------------------------
-- Rows and parameters
-- ---------------------------------------------------------------------------

def Reference.parameter? (ps : List Parameter) : Reference → Option Parameter
  | .positional index => ps[index]?
  | .numbered n => ps.find? (·.placeholder == "$" ++ toString n)
  | .named name => ps.find? (·.placeholder == "@" ++ name)

theorem Reference.exists_of_bind {ps : List Parameter} {r : Reference} {v : Value}
    (h : r.bind ps = .ok v) : ∃ p, r.parameter? ps = some p ∧ p.value = v := by
  simp only [bind] at h
  split at h
  next p hp =>
    cases h
    refine ⟨p, ?_, rfl⟩
    cases r <;> exact hp
  next => cases h

section Parameters

variable {ps ps' : List Parameter} (h : List.Forall₂ Parameter.Completes ps ps')

include h

theorem find?_completes (x : String) {p p' : Parameter}
    (hp : ps.find? (·.placeholder == x) = some p)
    (hp' : ps'.find? (·.placeholder == x) = some p') : p.Completes p' := by
  induction h with
  | nil => cases hp
  | @cons q q' ps ps' hhead _ ih =>
    by_cases hx : q.placeholder = x
    · have hx' : q'.placeholder = x := hhead.placeholder.trans hx
      obtain rfl : q = p := by simpa [hx] using hp
      obtain rfl : q' = p' := by simpa [hx'] using hp'
      exact hhead
    · have hx' : q'.placeholder ≠ x := hhead.placeholder ▸ hx
      exact ih (by simpa [hx] using hp) (by simpa [hx'] using hp')

theorem Reference.parameter?_completes (r : Reference) {p p' : Parameter}
    (hp : r.parameter? ps = some p) (hp' : r.parameter? ps' = some p') : p.Completes p' := by
  cases r with
  | positional index => exact forall₂_getElem? h hp hp'
  | numbered n => exact find?_completes h _ hp hp'
  | named name => exact find?_completes h _ hp hp'

theorem Reference.bind_completes (r : Reference) :
    Both Value.Completes (r.bind ps) (r.bind ps') := by
  intro v v' hv hv'
  obtain ⟨p, hp, rfl⟩ := exists_of_bind hv
  obtain ⟨p', hp', rfl⟩ := exists_of_bind hv'
  exact (r.parameter?_completes h hp hp').value

end Parameters

namespace StoredTable

variable {t t' : StoredTable} {ps ps' : List Parameter} {row row' : List Value}

theorem env_completes (t : StoredTable) (hps : List.Forall₂ Parameter.Completes ps ps')
    (hrow : List.Forall₂ Value.Completes row row') :
    (t.env ps row).Completes (t.env ps' row') where
  column name := by
    intro v v' hv hv'
    simp only [env, bind_eq_ok] at hv hv'
    obtain ⟨index, hindex, hv⟩ := hv
    obtain ⟨index', hindex', hv'⟩ := hv'
    rw [hindex] at hindex'
    cases hindex'
    split at hv <;> cases hv
    split at hv' <;> cases hv'
    exact forall₂_getElem? hrow ‹_› ‹_›
  bound r := r.bind_completes hps

theorem Completes.select (h : t.Completes t') (hps : List.Forall₂ Parameter.Completes ps ps')
    {s : Select Reference} {c : Condition Reference} (hs : s.filter = some c)
    (hc : c.testsNull = false) {result result' : List Row} (hresult : t.select s ps = .ok result)
    (hresult' : t'.select s ps' = .ok result') :
    ∃ kept, kept.Sublist result' ∧ List.Forall₂ Row.Completes result kept := by
  obtain ⟨columns, newestFirst'⟩ := t'
  obtain rfl : columns = t.columns := h.columns
  simp only [select_eq, hs, matching, bind_eq_ok, pure_eq_ok] at hresult hresult'
  obtain ⟨indices, hproject, rows, hrows, rfl⟩ := hresult
  obtain ⟨indices', hproject', rows', hrows', rfl⟩ := hresult'
  obtain rfl : indices = indices' := Except.ok.inj (hproject.symm.trans hproject')
  have hselects : ∀ row, ∀ row' ∈ (StoredTable.mk t.columns newestFirst').rows,
      List.Forall₂ Value.Completes row row' →
      (c.selects (t.env ps row)).toOption.getD false = true →
      (c.selects (t.env ps' row')).toOption.getD false = true := by
    intro row row' hmem hrow hselected
    obtain ⟨b, hb⟩ := ok_of_filterM hrows' row' hmem
    obtain ⟨v', hv', -⟩ := bind_eq_ok.1 hb
    rw [getD_toOption_eq_true] at hselected ⊢
    exact (t.env_completes hps hrow).selects hc hselected hv'
  obtain ⟨kept, hsublist, hkept⟩ := forall₂_filter h.rows hselects
  rw [filterM_eq_filter hrows, filterM_eq_filter hrows']
  refine ⟨kept.map _, hsublist.map _, ?_⟩
  rw [List.forall₂_map_left_iff, List.forall₂_map_right_iff]
  exact hkept.imp fun row row' hrow => ⟨rfl, forall₂_filterMap_getElem? hrow indices⟩

end StoredTable

/-- A definite value of a condition without tests for `NULL` survives when any `NULL` of the row or
of the parameters is filled in, if the condition then has a value at all. So a row that is returned
stays returned; and of all rows that a statement returns from a table, none is missing among those
that it returns after values are filled in. -/
theorem Condition.eval_completed (t : StoredTable) {c : Condition Reference}
    (hc : c.testsNull = false) {ps ps' : List Parameter}
    (hps : List.Forall₂ Parameter.Completes ps ps') :
    (∀ row row', List.Forall₂ Value.Completes row row' →
      ∀ v', c.eval (t.env ps' row') = .ok v' →
        (∀ v, c.eval (t.env ps row) = .ok v → v ≠ .null → v' = v) ∧
        (c.selects (t.env ps row) = .ok true → c.selects (t.env ps' row') = .ok true)) ∧
    ∀ t' s result result', t.Completes t' → s.filter = some c → t.select s ps = .ok result →
      t'.select s ps' = .ok result' →
      ∃ kept, kept.Sublist result' ∧ List.Forall₂ Row.Completes result kept := by
  refine ⟨fun row row' hrow v' hv' => ⟨fun v hv hdefinite => ?_, fun hselects => ?_⟩, ?_⟩
  · exact ((t.env_completes hps hrow).eval hc v v' hv hv').resolve_left hdefinite
  · exact (t.env_completes hps hrow).selects hc hselects hv'
  · exact fun t' s result result' ht hs hresult hresult' => ht.select hps hs hc hresult hresult'

/-- An unknown left operand of `OR` turns out true once a row and a parameter are filled in, and
decides before the right operand is looked at, which had decided before. -/
theorem Condition.eval_completed_decided :
    let t : StoredTable := ⟨[("IntColumn", .int32), ("BoolColumn", .boolean)],
      [[.null, .boolean false], [.null, .boolean true]]⟩
    let t' : StoredTable := ⟨[("IntColumn", .int32), ("BoolColumn", .boolean)],
      [[.int32 3, .boolean false], [.int32 3, .boolean true]]⟩
    let c : Condition Reference := .logic .or
      (.compare .eq (.column "IntColumn") (.placeholder (.positional 0)))
      (.compare .eq (.column "BoolColumn") (.placeholder (.numbered 2)))
    let s : Select Reference := ⟨.columns ["IntColumn"], "t", some c⟩
    let ps : List Parameter := [⟨"?", .null⟩, ⟨"$2", .boolean true⟩]
    let ps' : List Parameter := [⟨"?", .int32 3⟩, ⟨"$2", .boolean true⟩]
    c.selects (t.env ps' [.int32 3, .boolean true]) = .ok true ∧
    (∀ v, c.eval (t.env ps [.null, .boolean true]) = .ok v → v ≠ .null → .boolean true = v) ∧
    ∃ result result' kept, t.select s ps = .ok result ∧ t'.select s ps' = .ok result' ∧
      kept.Sublist result' ∧ List.Forall₂ Row.Completes result kept := by
  intro t t' c s ps ps'
  have hps : List.Forall₂ Parameter.Completes ps ps' :=
    .cons ⟨rfl, .inl rfl⟩ (.cons ⟨rfl, .inr rfl⟩ .nil)
  have hrow : ∀ b, List.Forall₂ Value.Completes [.null, .boolean b] [.int32 3, .boolean b] :=
    fun b => .cons (.inl rfl) (.cons (.inr rfl) .nil)
  obtain ⟨hrows, htable⟩ := eval_completed t (show c.testsNull = false from rfl) hps
  obtain ⟨heval, hselects⟩ := hrows _ _ (hrow true) (.boolean true) rfl
  obtain ⟨kept, hkept⟩ :=
    htable t' s _ _ ⟨rfl, .cons (hrow true) (.cons (hrow false) .nil)⟩ rfl rfl rfl
  exact ⟨hselects rfl, heval, _, _, kept, rfl, rfl, hkept⟩

end PredicateSql
