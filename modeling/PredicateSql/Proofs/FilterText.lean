import PredicateSql.Filter
import PredicateSql.Proofs.Grammar
import PredicateSql.Proofs.Placeholders

/-!
# The text of a filter and its condition

`Filter.condition` is the condition that a filter stands for, with the bound values in the places of
their placeholders. `Filter.spells`: that is what the text of the filter is read as, so that the
parentheses it leaves out are not needed.
-/

namespace PredicateSql

open PredicateSql.Lexer PredicateSql.Parser

@[simp] def Term.condition : Term → Condition Value
  | .column name => .column name
  | .bound value => .placeholder value
  | .arith op left right => .arith op left.condition right.condition

@[simp] def Filter.condition : Filter → Condition Value
  | .compare op left right => .compare op left.condition right.condition
  | .isNull operand => .isNull false operand.condition
  | .isNotNull operand => .isNull true operand.condition
  | .not operand => .not operand.condition
  | .logic op left right => .logic op left.condition right.condition

def Condition.columns {ρ : Type} : Condition ρ → List String
  | .column name => [name]
  | .literal _ | .placeholder _ => []
  | .compare _ left right | .arith _ left right | .logic _ left right =>
      left.columns ++ right.columns
  | .not operand | .negate operand | .isNull _ operand => operand.columns

/-- All columns of the condition can be written as they are. -/
def Condition.Plain {ρ : Type} (c : Condition ρ) : Prop :=
  ∀ name ∈ c.columns, isPlain name = true

namespace Fragment

/-- In that style, the text of the fragment is read as the condition, at that strength. -/
structure Spells (style : Style) (f : Fragment) (strength : Strength) (c : Condition Value) :
    Prop where
  values : f.values = c.placeholders
  slotCount : f.slotCount = c.placeholders.length
  reads : ∀ index, style.Covers (index + c.placeholders.length) →
    ∃ ts, Derives strength (style.bareBefore index) ts (c.relabel style.reference index)
        (style.bareBefore (index + c.placeholders.length)) ∧
      ∀ rest, ends rest = true → Reads (f.textFrom style index).toList ts rest

def asOperand (f : Fragment) : Fragment :=
  match f.kind with
  | .arithmetic => f.wrapped
  | _ => f

def asBranch (f : Fragment) : Fragment :=
  match f.kind with
  | .comparison | .negation => f
  | _ => f.wrapped

theorem appendOperand_eq (f g : Fragment) : f.appendOperand g = f.append g.asOperand := by
  unfold appendOperand asOperand
  cases g.kind <;> simp only [appendWrapped_eq]

theorem appendBranch_eq (f g : Fragment) : f.appendBranch g = f.append g.asBranch := by
  unfold appendBranch asBranch
  cases g.kind <;> simp only [appendWrapped_eq]

end Fragment

-- ---------------------------------------------------------------------------
-- Spelling by parts
-- ---------------------------------------------------------------------------

namespace Fragment.Spells

variable {style : Style} {f g joined : Fragment} {s s' s'' : Strength} {c l r : Condition Value}

theorem mono (hf : f.Spells style s c) (hle : s.rank ≤ s'.rank) : f.Spells style s' c where
  values := hf.values
  slotCount := hf.slotCount
  reads index hs := by
    obtain ⟨ts, hts, hread⟩ := hf.reads index hs
    exact ⟨ts, hts.mono hle, hread⟩

theorem column {name : String} {kind : Kind} (hn : isPlain name = true) :
    (Fragment.sql name kind).Spells style .primary (.column name) where
  values := rfl
  slotCount := by simp [Condition.placeholders]
  reads index _ := by
    refine ⟨[.identifier name], .atom rfl, fun rest hrest => ?_⟩
    rw [textFrom_sql]
    exact Reads.plain hn hrest

theorem parameter (v : Value) : (Fragment.parameter v).Spells style .primary (.placeholder v) where
  values := rfl
  slotCount := by simp [Condition.placeholders]
  reads index hs := by
    refine ⟨[.placeholder (style.marker index)], .atom ?_, fun rest hrest => ?_⟩
    · cases style <;> rfl
    · rw [textFrom_parameter]
      exact Reads.spell hs hrest

theorem wrapped (hf : f.Spells style .disjunction c) : f.wrapped.Spells style .primary c where
  values := by rw [values_wrapped, hf.values]
  slotCount := by rw [slotCount_wrapped, hf.slotCount]
  reads index hs := by
    obtain ⟨ts, hts, hread⟩ := hf.reads index hs
    refine ⟨_, .parens hts, fun rest hrest => ?_⟩
    have hclose : Reads [')'] [.symbol .rightParen] rest := Reads.symbol .rightParen hrest
    simpa using Reads.leftParen.append ((hread (')' :: rest) rfl).append hclose)

theorem join {word : String} {t : Token}
    (hword : ∀ rest, ends rest = true → Reads word.toList [t] rest)
    (hvalues : joined.values = f.values ++ g.values)
    (hslots : joined.slotCount = f.slotCount + g.slotCount)
    (htext : ∀ index, joined.textFrom style index =
      f.textFrom style index ++ (" " ++ word ++ " ") ++ g.textFrom style (index + f.slotCount))
    (hc : c.placeholders = l.placeholders ++ r.placeholders)
    (hrule : ∀ index k k' k'' ts us, Derives s k ts (l.relabel style.reference index) k' →
      Derives s' k' us (r.relabel style.reference (index + l.placeholders.length)) k'' →
      Derives s'' k (ts ++ t :: us) (c.relabel style.reference index) k'')
    (hf : f.Spells style s l) (hg : g.Spells style s' r) : joined.Spells style s'' c where
  values := by rw [hvalues, hc, hf.values, hg.values]
  slotCount := by rw [hslots, hc, hf.slotCount, hg.slotCount, List.length_append]
  reads index hs := by
    rw [hc, List.length_append, ← Nat.add_assoc] at hs ⊢
    obtain ⟨ts, hts, hread⟩ := hf.reads index (hs.mono (Nat.le_add_right _ _))
    obtain ⟨us, hus, hread'⟩ := hg.reads (index + l.placeholders.length) hs
    refine ⟨ts ++ t :: us, hrule index _ _ _ ts us hts hus, fun rest hrest => ?_⟩
    rw [← hf.slotCount] at hread'
    simpa [htext] using Reads.between hread hword (hread' rest hrest)

theorem push {words : String} {ws : List Token} {kind : Kind} (hf : f.Spells style s l)
    (hends : ∀ rest, ends (words.toList ++ rest) = true)
    (hwords : ∀ rest, ends rest = true → Reads words.toList ws rest)
    (hc : c.placeholders = l.placeholders)
    (hrule : ∀ index k k' ts, Derives s k ts (l.relabel style.reference index) k' →
      Derives s' k (ts ++ ws) (c.relabel style.reference index) k') :
    ((f.withKind kind).pushSql words).Spells style s' c where
  values := by rw [values_pushSql, values_withKind, hc, hf.values]
  slotCount := by rw [slotCount_pushSql, slotCount_withKind, hc, hf.slotCount]
  reads index hs := by
    rw [hc] at hs ⊢
    obtain ⟨ts, hts, hread⟩ := hf.reads index hs
    refine ⟨ts ++ ws, hrule index _ _ ts hts, fun rest hrest => ?_⟩
    simpa using (hread _ (hends rest)).append (hwords rest hrest)

end Fragment.Spells

-- ---------------------------------------------------------------------------
-- Terms
-- ---------------------------------------------------------------------------

namespace Term

variable {style : Style}

theorem spells_arith (op : ArithOp) {left right : Term}
    (hl : left.fragment.asOperand.Spells style .primary left.condition)
    (hr : right.fragment.asOperand.Spells style .primary right.condition) :
    (Term.arith op left right).fragment.Spells style .sum (Term.arith op left right).condition := by
  refine Fragment.Spells.join (fun _ => Reads.arithOp op) ?_ ?_ ?_ rfl ?_ hl hr
  · simp [fragment, Fragment.appendOperand_eq]
  · simp [fragment, Fragment.appendOperand_eq]
  · intro index
    simp [fragment, Fragment.appendOperand_eq]
  · intro index k k' k'' ts us hts hus
    cases op with
    | add | sub => exact .sum rfl (hts.mono (by decide)) (hus.mono (by decide))
    | mul | div | mod =>
      exact .ofProduct (.product rfl (hts.mono (by decide)) (hus.mono (by decide)))

theorem spells (style : Style) (t : Term) (h : t.condition.Plain) :
    t.fragment.Spells style .sum t.condition ∧
      t.fragment.asOperand.Spells style .primary t.condition := by
  induction t with
  | column name =>
    have hname : (Fragment.sql name .operand).Spells style .primary (.column name) :=
      .column (h name (by simp [condition, Condition.columns]))
    exact ⟨hname.mono (by decide), hname⟩
  | bound value => exact ⟨(Fragment.Spells.parameter value).mono (by decide), .parameter value⟩
  | arith op left right ihl ihr =>
    have hl := ihl fun name hn => h name (List.mem_append_left _ hn)
    have hr := ihr fun name hn => h name (List.mem_append_right _ hn)
    have harith := spells_arith op hl.2 hr.2
    have hwrapped : (Term.arith op left right).fragment.asOperand =
        (Term.arith op left right).fragment.wrapped := by
      simp [Fragment.asOperand, fragment, Fragment.appendOperand_eq]
    exact ⟨harith, hwrapped ▸ (harith.mono (by decide)).wrapped⟩

end Term

-- ---------------------------------------------------------------------------
-- Filters
-- ---------------------------------------------------------------------------

namespace Filter

variable {style : Style}

theorem spells_compare (op : CompareOp) {left right : Term}
    (hl : left.fragment.Spells style .sum left.condition)
    (hr : right.fragment.Spells style .sum right.condition) :
    (Filter.compare op left right).fragment.Spells style .comparison
      (Filter.compare op left right).condition := by
  refine Fragment.Spells.join (fun _ => Reads.compareOp op) ?_ ?_ ?_ rfl ?_ hl hr
  · simp [fragment]
  · simp [fragment]
  · intro index
    simp [fragment]
  · intro index k k' k'' ts us hts hus
    exact .compare (by cases op <;> rfl) hts hus

theorem spells_logic (op : LogicOp) {left right : Filter}
    (hl : left.fragment.asBranch.Spells style .negation left.condition)
    (hr : right.fragment.asBranch.Spells style .negation right.condition) :
    (Filter.logic op left right).fragment.Spells style .disjunction
      (Filter.logic op left right).condition := by
  refine Fragment.Spells.join (fun _ => Reads.logicOp op) ?_ ?_ ?_ rfl ?_ hl hr
  · simp [fragment, Fragment.appendBranch_eq]
  · simp [fragment, Fragment.appendBranch_eq]
  · intro index
    simp [fragment, Fragment.appendBranch_eq]
  · intro index k k' k'' ts us hts hus
    cases op with
    | and => exact .ofConjunction (.and rfl (.ofNegation hts) hus)
    | or => exact .or rfl (hts.mono (by decide)) (.ofNegation hus)

theorem spells_isNull {operand : Term} (h : operand.fragment.Spells style .sum operand.condition) :
    (Filter.isNull operand).fragment.Spells style .comparison
      (Filter.isNull operand).condition := by
  refine h.push (c := .isNull false operand.condition) (fun _ => rfl) (fun rest hrest => ?_) rfl
    fun _ _ _ _ hts => hts.isNull
  simpa [Keyword.spelling] using Reads.blank.append
    ((Reads.keyword .is rfl).append (Reads.blank.append (Reads.keyword .null hrest)))

theorem spells_isNotNull {operand : Term}
    (h : operand.fragment.Spells style .sum operand.condition) :
    (Filter.isNotNull operand).fragment.Spells style .comparison
      (Filter.isNotNull operand).condition := by
  refine h.push (c := .isNull true operand.condition) (fun _ => rfl) (fun rest hrest => ?_) rfl
    fun _ _ _ _ hts => hts.isNotNull
  simpa [Keyword.spelling] using Reads.blank.append
    ((Reads.keyword .is rfl).append (Reads.blank.append
      ((Reads.keyword .not rfl).append (Reads.blank.append (Reads.keyword .null hrest)))))

theorem spells_not {operand : Filter}
    (h : operand.fragment.Spells style .disjunction operand.condition) :
    (Filter.not operand).fragment.Spells style .negation (Filter.not operand).condition where
  values := by
    simpa [fragment, Fragment.appendWrapped_eq, condition, Condition.placeholders] using h.values
  slotCount := by
    simpa [fragment, Fragment.appendWrapped_eq, condition, Condition.placeholders] using h.slotCount
  reads index hs := by
    obtain ⟨ts, hts, hread⟩ := h.wrapped.reads index hs
    refine ⟨.keyword .not :: ts, .not (hts.mono (by decide)), fun rest hrest => ?_⟩
    simpa [fragment, Fragment.appendWrapped_eq, Keyword.spelling] using
      (Reads.keyword .not rfl).append (Reads.blank.append (hread rest hrest))

/-- What the text of the filter is read as, on its own and beside `AND` and `OR`. -/
theorem spells (style : Style) (f : Filter) (h : f.condition.Plain) :
    f.fragment.Spells style .disjunction f.condition ∧
      f.fragment.asBranch.Spells style .negation f.condition := by
  induction f with
  | compare op left right =>
    have hl := left.spells style fun name hn => h name (List.mem_append_left _ hn)
    have hr := right.spells style fun name hn => h name (List.mem_append_right _ hn)
    have hcompare := spells_compare op hl.1 hr.1
    exact ⟨hcompare.mono (by decide), hcompare.mono (by decide)⟩
  | isNull operand =>
    have hnull := spells_isNull (operand.spells style h).1
    exact ⟨hnull.mono (by decide), hnull.mono (by decide)⟩
  | isNotNull operand =>
    have hnull := spells_isNotNull (operand.spells style h).1
    exact ⟨hnull.mono (by decide), hnull.mono (by decide)⟩
  | not operand ih =>
    have hnot := spells_not (ih h).1
    exact ⟨hnot.mono (by decide), hnot⟩
  | logic op left right ihl ihr =>
    have hl := ihl fun name hn => h name (List.mem_append_left _ hn)
    have hr := ihr fun name hn => h name (List.mem_append_right _ hn)
    have hlogic := spells_logic op hl.2 hr.2
    have hwrapped : (Filter.logic op left right).fragment.asBranch =
        (Filter.logic op left right).fragment.wrapped := by
      cases op <;> simp [Fragment.asBranch, fragment, Fragment.appendBranch_eq, LogicOp.kind]
    exact ⟨hlogic, hwrapped ▸ hlogic.wrapped.mono (by decide)⟩

end Filter

end PredicateSql
