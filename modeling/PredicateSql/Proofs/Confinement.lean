import PredicateSql.Demo
import PredicateSql.Proofs.LoweringRules
import PredicateSql.Proofs.Rendering

/-!
# Closed values stay out of the text

`Expr.Alike`: two predicates are the same but for their closed parts, which agree in truth value
where they are conditions and in type where they are operands. Such predicates are lowered alike, up
to the values that are bound (`Alike.transfers`), so that the text of the one is the text of the
other.
-/

namespace PredicateSql

namespace Expr

/-- Where an expression stands: as a condition, or as an operand. -/
inductive Position
  | predicate
  | operand

/-- Closed expressions that may stand for each other: conditions of the same truth value, operands
of the same type, and `NULL` only for `NULL`. -/
def Interchangeable : Position → Expr → Expr → Prop
  | .predicate, e, e' => ∃ b, e.evalBool "predicate" = .ok b ∧ e'.evalBool "predicate" = .ok b
  | .operand, e, e' => ∃ v v', e.eval = .ok v ∧ e'.eval = .ok v' ∧ v.type? = v'.type?

/-- The same tree, where the largest closed parts may have been replaced by interchangeable ones. -/
inductive Alike : Position → Expr → Expr → Prop
  | refl {p e} : Alike p e e
  | closed {p e e'} : e.isClosed = true → e'.isClosed = true → Interchangeable p e e' → Alike p e e'
  | compare {p op left right left' right'} : (Expr.compare op left right).isClosed = false →
      Alike .operand left left' → Alike .operand right right' →
      Alike p (.compare op left right) (.compare op left' right')
  | arith {p op left right left' right'} : (Expr.arith op left right).isClosed = false →
      Alike .operand left left' → Alike .operand right right' →
      Alike p (.arith op left right) (.arith op left' right')
  | logic {p op left right left' right'} : (Expr.logic op left right).isClosed = false →
      Alike .predicate left left' → Alike .predicate right right' →
      Alike p (.logic op left right) (.logic op left' right')
  | not {p operand operand'} : (Expr.not operand).isClosed = false →
      Alike .predicate operand operand' → Alike p (.not operand) (.not operand')

theorem Alike.isClosed {p : Position} {e e' : Expr} (h : Alike p e e') :
    e'.isClosed = e.isClosed := by
  induction h with
  | refl => rfl
  | closed he he' => rw [he, he']
  | compare _ _ _ ihl ihr => rw [isClosed_compare, isClosed_compare, ihl, ihr]
  | arith _ _ _ ihl ihr => rw [isClosed_arith, isClosed_arith, ihl, ihr]
  | logic _ _ _ ihl ihr => rw [isClosed_logic, isClosed_logic, ihl, ihr]
  | not _ _ ih => exact ih

end Expr

-- ---------------------------------------------------------------------------
-- Without the values
-- ---------------------------------------------------------------------------

/-- What is left of a value if only its type may be seen. -/
def Value.masked : Value → Value
  | .null => .null
  | .boolean _ => .boolean false
  | .int32 _ => .int32 0
  | .string _ => .string ""

theorem Value.masked_eq_iff {v v' : Value} : v.masked = v'.masked ↔ v.type? = v'.type? := by
  cases v <;> cases v' <;> simp [masked, type?]

def Term.masked : Term → Term
  | .column name => .column name
  | .bound value => .bound value.masked
  | .arith op left right => .arith op left.masked right.masked

def Filter.masked : Filter → Filter
  | .compare op left right => .compare op left.masked right.masked
  | .isNull operand => .isNull operand.masked
  | .isNotNull operand => .isNotNull operand.masked
  | .not operand => .not operand.masked
  | .logic op left right => .logic op left.masked right.masked

def Lowered.masked : Lowered → Lowered
  | .folded b => .folded b
  | .filter f => .filter f.masked

namespace Lowered

variable {lowered : Lowered}

theorem eq_folded_of_masked {b : Bool} (h : lowered.masked = (Lowered.folded b).masked) :
    lowered = .folded b := by
  cases lowered with
  | folded b' => exact h
  | filter f => cases h

theorem eq_filter_of_masked {f : Filter} (h : lowered.masked = (Lowered.filter f).masked) :
    ∃ f', lowered = .filter f' ∧ f'.masked = f.masked := by
  cases lowered with
  | folded b => cases h
  | filter f' => exact ⟨f', rfl, by injection h⟩

end Lowered

namespace Fragment

def masked (f : Fragment) : Fragment :=
  { f with values := f.values.map Value.masked }

variable (f g : Fragment)

@[simp] theorem masked_sql (sql : String) (kind : Kind) :
    (Fragment.sql sql kind).masked = .sql sql kind := rfl

@[simp] theorem masked_parameter (v : Value) :
    (Fragment.parameter v).masked = .parameter v.masked := rfl

@[simp] theorem masked_withKind (kind : Kind) :
    (f.withKind kind).masked = f.masked.withKind kind := rfl

@[simp] theorem masked_pushSql (sql : String) : (f.pushSql sql).masked = f.masked.pushSql sql := rfl

@[simp] theorem masked_append : (f.append g).masked = f.masked.append g.masked := by
  simp [masked, append]

@[simp] theorem masked_appendWrapped :
    (f.appendWrapped g).masked = f.masked.appendWrapped g.masked := by
  simp [appendWrapped]

@[simp] theorem masked_appendOperand :
    (f.appendOperand g).masked = f.masked.appendOperand g.masked := by
  have hkind : g.masked.kind = g.kind := rfl
  unfold appendOperand
  rw [hkind]
  split <;> simp

@[simp] theorem masked_appendBranch :
    (f.appendBranch g).masked = f.masked.appendBranch g.masked := by
  have hkind : g.masked.kind = g.kind := rfl
  unfold appendBranch
  rw [hkind]
  split <;> simp

theorem text_renderPieces (style : Style) (index : Nat) (ps : List Piece) (vs : List Value) :
    (renderPieces style index ps vs).text = piecesText style index ps := by
  induction ps generalizing index vs with
  | nil => rfl
  | cons p ps ih =>
    cases p with
    | text sql => simp [renderPieces, piecesText, ih]
    | slot => simp [renderPieces, piecesText, ih]

variable {f g}

theorem kind_eq_of_masked (h : f.masked = g.masked) : f.kind = g.kind := by
  injection h

theorem text_render_eq_of_masked (h : f.masked = g.masked) (style : Style) :
    (f.render style).text = (g.render style).text := by
  have hpieces : f.pieces = g.pieces := by injection h
  rw [render, render, text_renderPieces, text_renderPieces, hpieces]

theorem types_eq_of_masked (h : f.masked = g.masked) :
    f.values.map Value.type? = g.values.map Value.type? := by
  have hvalues : f.values.map Value.masked = g.values.map Value.masked := by injection h
  have htype : Value.type? = Value.type? ∘ Value.masked := by
    funext v
    cases v <;> rfl
  rw [htype, ← List.map_map, ← List.map_map, hvalues]

end Fragment

theorem Term.fragment_masked (t : Term) : t.masked.fragment = t.fragment.masked := by
  induction t with
  | column name => rfl
  | bound value => rfl
  | arith op left right ihl ihr => simp [masked, fragment, ihl, ihr]

theorem Filter.fragment_masked (f : Filter) : f.masked.fragment = f.fragment.masked := by
  induction f with
  | compare op left right => simp [masked, fragment, Term.fragment_masked]
  | isNull operand => simp [masked, fragment, Term.fragment_masked]
  | isNotNull operand => simp [masked, fragment, Term.fragment_masked]
  | not operand ih => simp [masked, fragment, ih]
  | logic op left right ihl ihr => simp [masked, fragment, ihl, ihr]

-- ---------------------------------------------------------------------------
-- Lowering alike
-- ---------------------------------------------------------------------------

inductive Operand.Similar : Operand → Operand → Prop
  | value {v v'} : v.type? = v'.type? → Similar (.value v) (.value v')
  | term {t t' type label label'} : t.masked = t'.masked →
      Similar (.term t type label) (.term t' type label')

namespace Operand.Similar

variable {o o' : Operand}

theorem refl (o : Operand) : Similar o o := by
  cases o with
  | value v => exact .value rfl
  | term t type label => exact .term rfl

theorem type?_eq (h : Similar o o') : o'.type? = o.type? := by
  cases h with
  | value hv => exact hv.symm
  | term => rfl

theorem masked_toTerm (h : Similar o o') : o'.toTerm.masked = o.toTerm.masked := by
  cases h with
  | value hv => simp [Term.masked, Value.masked_eq_iff.2 hv]
  | term ht => exact ht.symm

end Operand.Similar

theorem Filter.ComparesValue.similar {op : CompareOp} {t t' : Term} {type : DataType} {v v' : Value}
    {f : Filter} (h : ComparesValue op t type v f) (ht : t.masked = t'.masked)
    (hv : v.type? = v'.type?) :
    ∃ f', ComparesValue op t' type v' f' ∧ f'.masked = f.masked := by
  cases h with
  | isNull hop =>
    obtain rfl : v' = .null := by cases v' <;> simp_all [Value.type?]
    exact ⟨_, .isNull hop, by simp [Filter.masked, ht]⟩
  | isNotNull hop =>
    obtain rfl : v' = .null := by cases v' <;> simp_all [Value.type?]
    exact ⟨_, .isNotNull hop, by simp [Filter.masked, ht]⟩
  | bound hne hfits =>
    have hne' : v' ≠ .null := by
      rintro rfl
      cases v <;> simp_all [Value.type?]
    have hfits' : v'.fits type = true := by
      unfold Value.fits at hfits ⊢
      rwa [← hv]
    exact ⟨_, .bound hne' hfits',
      by simp [Filter.masked, Term.masked, ht, Value.masked_eq_iff.2 hv]⟩

namespace Expr

/-- Whatever the one is lowered to at that position, the other is lowered to the like. -/
def Position.Transfers (s : Scope) : Position → Expr → Expr → Prop
  | .predicate, e, e' => ∀ lowered, s.Lowers e lowered →
      ∃ lowered', s.Lowers e' lowered' ∧ lowered'.masked = lowered.masked
  | .operand, e, e' => ∀ o, s.LowersOperand e o → ∃ o', s.LowersOperand e' o' ∧ o.Similar o'

section Transfer

variable {s : Scope} {p : Position} {e e' left right left' right' operand operand' : Expr}

theorem transfers_refl : p.Transfers s e e := by
  cases p with
  | predicate => exact fun lowered h => ⟨lowered, h, rfl⟩
  | operand => exact fun o h => ⟨o, h, .refl o⟩

theorem transfers_closed (he : e.isClosed = true) (he' : e'.isClosed = true)
    (h : Interchangeable p e e') : p.Transfers s e e' := by
  cases p with
  | predicate =>
    intro lowered hl
    obtain ⟨b, hb, hb'⟩ := h
    obtain ⟨_, rfl, hfold⟩ := hl.folded_of_isClosed he
    cases hb.symm.trans hfold
    exact ⟨_, .fold he' hb', rfl⟩
  | operand =>
    intro o ho
    obtain ⟨v, v', hv, hv', htype⟩ := h
    cases ho.operand.symm.trans (Scope.LowersOperand.value he hv).operand
    exact ⟨_, .value he' hv', .value htype⟩

theorem transfers_compare {op : CompareOp} (hopen : (Expr.compare op left right).isClosed = false)
    (hl : Position.operand.Transfers s left left')
    (hr : Position.operand.Transfers s right right') :
    p.Transfers s (.compare op left right) (.compare op left' right') := by
  cases p with
  | operand =>
    rintro o (⟨hclosed, _⟩ | _)
    simp [hopen] at hclosed
  | predicate =>
    rintro lowered (⟨hclosed, _⟩ | _ | ⟨h⟩)
    · simp [hopen] at hclosed
    cases h with
    | value ht hv hf =>
      obtain ⟨_, ht', _ | hterm⟩ := hl _ ht
      obtain ⟨_, hv', htype | _⟩ := hr _ hv
      obtain ⟨f', hf', hmasked⟩ := hf.similar hterm htype
      exact ⟨_, .comparison (.value ht' hv' hf'), by simp [Lowered.masked, hmasked]⟩
    | flipped hv ht hf =>
      obtain ⟨_, hv', htype | _⟩ := hl _ hv
      obtain ⟨_, ht', _ | hterm⟩ := hr _ ht
      obtain ⟨f', hf', hmasked⟩ := hf.similar hterm htype
      exact ⟨_, .comparison (.flipped hv' ht' hf'), by simp [Lowered.masked, hmasked]⟩
    | terms ht hu =>
      obtain ⟨_, ht', _ | hterm⟩ := hl _ ht
      obtain ⟨_, hu', _ | hterm'⟩ := hr _ hu
      exact ⟨_, .comparison (.terms ht' hu'),
        by simp [Lowered.masked, Filter.masked, hterm, hterm']⟩

theorem transfers_arith {op : ArithOp} (hopen : (Expr.arith op left right).isClosed = false)
    (hopen' : (Expr.arith op left' right').isClosed = false)
    (hl : Position.operand.Transfers s left left')
    (hr : Position.operand.Transfers s right right') :
    p.Transfers s (.arith op left right) (.arith op left' right') := by
  cases p with
  | predicate =>
    rintro lowered (⟨hclosed, _⟩ | _)
    simp [hopen] at hclosed
  | operand =>
    intro o ho
    cases ho with
    | value hclosed _ => simp [hopen] at hclosed
    | arith _ hlo hro htype =>
      obtain ⟨l', hl', hlsimilar⟩ := hl _ hlo
      obtain ⟨r', hr', hrsimilar⟩ := hr _ hro
      rw [← hlsimilar.type?_eq, ← hrsimilar.type?_eq] at htype
      refine ⟨_, .arith hopen' hl' hr' htype, .term ?_⟩
      simp [Term.masked, hlsimilar.masked_toTerm, hrsimilar.masked_toTerm]

theorem transfers_logic {op : LogicOp} (hopen : (Expr.logic op left right).isClosed = false)
    (hl : Position.predicate.Transfers s left left')
    (hr : Position.predicate.Transfers s right right') :
    p.Transfers s (.logic op left right) (.logic op left' right') := by
  cases p with
  | operand =>
    rintro o (⟨hclosed, _⟩ | _)
    simp [hopen] at hclosed
  | predicate =>
    intro lowered h
    cases h with
    | fold hclosed _ => simp [hopen] at hclosed
    | decideLeft h =>
      obtain ⟨_, h', hmasked⟩ := hl _ h
      obtain rfl := Lowered.eq_folded_of_masked hmasked
      exact ⟨_, .decideLeft h', rfl⟩
    | dropLeft h k =>
      obtain ⟨_, h', hmasked⟩ := hl _ h
      obtain rfl := Lowered.eq_folded_of_masked hmasked
      obtain ⟨lowered', k', hmasked'⟩ := hr _ k
      exact ⟨lowered', .dropLeft h' k', hmasked'⟩
    | decideRight h k =>
      obtain ⟨_, h', hmasked⟩ := hl _ h
      obtain ⟨l', rfl, -⟩ := Lowered.eq_filter_of_masked hmasked
      obtain ⟨_, k', hmasked'⟩ := hr _ k
      obtain rfl := Lowered.eq_folded_of_masked hmasked'
      exact ⟨_, .decideRight h' k', rfl⟩
    | dropRight h k =>
      obtain ⟨_, h', hmasked⟩ := hl _ h
      obtain ⟨l', rfl, -⟩ := Lowered.eq_filter_of_masked hmasked
      obtain ⟨_, k', hmasked'⟩ := hr _ k
      obtain rfl := Lowered.eq_folded_of_masked hmasked'
      exact ⟨_, .dropRight h' k', hmasked⟩
    | logic h k =>
      obtain ⟨_, h', hmasked⟩ := hl _ h
      obtain ⟨l', rfl, hleft⟩ := Lowered.eq_filter_of_masked hmasked
      obtain ⟨_, k', hmasked'⟩ := hr _ k
      obtain ⟨r', rfl, hright⟩ := Lowered.eq_filter_of_masked hmasked'
      exact ⟨_, .logic h' k', by simp [Lowered.masked, Filter.masked, hleft, hright]⟩

theorem transfers_not (hopen : (Expr.not operand).isClosed = false)
    (h : Position.predicate.Transfers s operand operand') :
    p.Transfers s (.not operand) (.not operand') := by
  cases p with
  | operand =>
    rintro o (⟨hclosed, _⟩ | _)
    simp [hopen] at hclosed
  | predicate =>
    intro lowered hlowers
    cases hlowers with
    | fold hclosed _ => simp [hopen] at hclosed
    | notFolded k =>
      obtain ⟨_, k', hmasked⟩ := h _ k
      obtain rfl := Lowered.eq_folded_of_masked hmasked
      exact ⟨_, .notFolded k', rfl⟩
    | not k =>
      obtain ⟨_, k', hmasked⟩ := h _ k
      obtain ⟨f', rfl, hfilter⟩ := Lowered.eq_filter_of_masked hmasked
      exact ⟨_, .not k', by simp [Lowered.masked, Filter.masked, hfilter]⟩

end Transfer

theorem Alike.transfers {p : Position} {e e' : Expr} (h : Alike p e e') (s : Scope) :
    p.Transfers s e e' := by
  induction h with
  | refl => exact transfers_refl
  | closed he he' h => exact transfers_closed he he' h
  | compare hopen _ _ ihl ihr => exact transfers_compare hopen ihl ihr
  | arith hopen hl hr ihl ihr =>
    have hopen' := (Alike.arith (p := .operand) hopen hl hr).isClosed.trans hopen
    exact transfers_arith hopen hopen' ihl ihr
  | logic hopen _ _ ihl ihr => exact transfers_logic hopen ihl ihr
  | not hopen _ ih => exact transfers_not hopen ih

end Expr

namespace Scope

/-- The closed parts of a predicate reach the database as bound values only. A predicate that is
like one that compiles compiles too: both are decided alike, or both leave fragments of one kind
that have the same text in every style and values that agree in number and type. -/
theorem lower_alike (s : Scope) {e e' : Expr} {lowered : Lowered} (h : Expr.Alike .predicate e e')
    (hlower : (s.lower e).result = .ok lowered) :
    ∃ lowered', (s.lower e').result = .ok lowered' ∧
      ((∃ b, lowered = .folded b ∧ lowered' = .folded b) ∨
        ∃ f f', lowered = .filter f ∧ lowered' = .filter f' ∧
          f'.fragment.kind = f.fragment.kind ∧
          (∀ style, (f'.fragment.render style).text = (f.fragment.render style).text) ∧
          f'.fragment.values.map Value.type? = f.fragment.values.map Value.type?) := by
  obtain ⟨lowered', hlowers, hmasked⟩ := h.transfers s lowered (Lowers.of_lower hlower)
  refine ⟨lowered', hlowers.lower, ?_⟩
  cases lowered with
  | folded b => exact .inl ⟨b, rfl, Lowered.eq_folded_of_masked hmasked⟩
  | filter f =>
    obtain ⟨f', rfl, hfilter⟩ := Lowered.eq_filter_of_masked hmasked
    have hfragment : f'.fragment.masked = f.fragment.masked := by
      rw [← f'.fragment_masked, ← f.fragment_masked, hfilter]
    exact .inr ⟨f, f', rfl, rfl, Fragment.kind_eq_of_masked hfragment,
      Fragment.text_render_eq_of_masked hfragment, Fragment.types_eq_of_masked hfragment⟩

theorem lower_alike_hostile :
    ∃ f', (lower ⟨Demo.testType.table, "TestType", "q"⟩
      (.logic .and (.compare .lt (Demo.int 1) (Demo.int 2))
        (.compare .eq (.member (.parameter "q") "StringColumn")
          (.member (.capture ⟨"form", .object [("name", .string "' OR 1 = 1 --")]⟩)
            "name")))).result =
        .ok (.filter f') ∧
      (f'.fragment.render .numbered).text = "StringColumn = $1" := by
  have hlower : (lower ⟨Demo.testType.table, "TestType", "q"⟩
      (.logic .and (.constant (.boolean true))
        (.compare .eq (.member (.parameter "q") "StringColumn")
          (.constant (.string "a"))))).result =
      .ok (.filter (.compare .eq (.column "StringColumn") (.bound (.string "a")))) := rfl
  have hbranch : (Expr.compare .lt (Demo.int 1) (Demo.int 2)).evalBool "predicate" = .ok true := rfl
  have hname : (Expr.member (.capture ⟨"form", .object [("name", .string "' OR 1 = 1 --")]⟩)
      "name").eval = .ok (.string "' OR 1 = 1 --") := rfl
  obtain ⟨_, hlower', ⟨b, hb, -⟩ | ⟨f, f', hf, rfl, -, htext, -⟩⟩ := lower_alike _
    (.logic rfl (.closed rfl (by rfl) ⟨true, rfl, hbranch⟩)
      (.compare rfl .refl (.closed rfl (by rfl) ⟨.string "a", _, rfl, hname, rfl⟩))) hlower
  · cases hb
  · cases hf
    exact ⟨f', hlower', htext .numbered⟩

end Scope

end PredicateSql
