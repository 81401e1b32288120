import PredicateSql.Proofs.SessionRuns
import PredicateSql.Proofs.Store

/-!
# What is noted for everyone

Most events are noted for those who look closer; only those at the info level are always shown.
Lowering, executing and reading records note none of these (`Session.Quiet.select`), so that a
caller's own events are all that is shown of a session.
-/

namespace PredicateSql

def Event.isInfo (e : Event) : Bool :=
  e.level == .info

-- ---------------------------------------------------------------------------
-- Runs
-- ---------------------------------------------------------------------------

namespace Run

variable {ε ε' α β : Type}

def Quiet (x : Run ε α) : Prop :=
  ∀ e ∈ x.events, e.isInfo = false

namespace Quiet

theorem pure (a : α) : Quiet (pure a : Run ε α) :=
  fun _ he => absurd he List.not_mem_nil

theorem error (e : ε) : Quiet (.error e : Run ε α) :=
  fun _ he => absurd he List.not_mem_nil

theorem ofExcept (x : Except ε α) : Quiet (.ofExcept x) :=
  fun _ he => absurd he List.not_mem_nil

theorem note {e : Event} (h : e.isInfo = false) : Quiet (.note e : Run ε Unit) := by
  intro e' he'
  rwa [List.mem_singleton.1 he']

theorem mapError {x : Run ε α} (h : Quiet x) (f : ε → ε') : Quiet (x.mapError f) := h

theorem bind {x : Run ε α} {f : α → Run ε β} (hx : Quiet x) (hf : ∀ a, Quiet (f a)) :
    Quiet (x >>= f) := by
  cases h : x.result with
  | error e =>
    rw [bind_of_error h]
    exact hx
  | ok a =>
    rw [bind_of_ok h]
    intro e he
    rcases List.mem_append.1 he with he | he
    · exact hx e he
    · exact hf a e he

theorem filter_events {x : Run ε α} (h : Quiet x) : x.events.filter Event.isInfo = [] := by
  rw [List.filter_eq_nil_iff]
  intro e he
  rw [h e he]
  exact Bool.false_ne_true

end Quiet

end Run

theorem Expr.quiet_fold (e : Expr) : e.fold.Quiet :=
  (Run.Quiet.ofExcept _).bind fun _ => (Run.Quiet.note rfl).bind fun _ => .pure _

theorem Scope.quiet_comparison (s : Scope) (op : CompareOp) (left right : Expr) :
    (s.comparison op left right).Quiet := by
  refine (Run.Quiet.ofExcept _).bind fun l => (Run.Quiet.ofExcept _).bind fun r => ?_
  cases l with
  | value l =>
    cases r with
    | value r => exact Expr.quiet_fold _
    | term t type label => exact (Run.Quiet.ofExcept _).bind fun _ => .pure _
  | term t type label =>
    cases r with
    | value r => exact (Run.Quiet.ofExcept _).bind fun _ => .pure _
    | term t' type' label' =>
      simp only
      split
      · exact .pure _
      · exact .error _

theorem Scope.quiet_lower (s : Scope) (e : Expr) : (s.lower e).Quiet := by
  induction e with
  | constant v => exact Expr.quiet_fold _
  | capture c => exact Expr.quiet_fold _
  | member owner name =>
    rw [lower]
    split
    · exact Expr.quiet_fold _
    · exact (Run.Quiet.ofExcept _).bind fun _ => .pure _
  | compare op left right =>
    rw [lower]
    split
    · exact Expr.quiet_fold _
    · exact s.quiet_comparison op left right
  | arith op left right =>
    rw [lower]
    split
    · exact Expr.quiet_fold _
    · exact .error _
  | logic op left right ihl ihr =>
    rw [lower]
    refine ihl.bind fun l => ?_
    cases l with
    | folded value =>
      by_cases hvalue : value = op.absorbing
      · simp only [hvalue, if_true]
        exact (Run.Quiet.note rfl).bind fun _ => .pure _
      · simp only [hvalue, if_false]
        exact (Run.Quiet.note rfl).bind fun _ => ihr
    | filter l =>
      refine ihr.bind fun r => ?_
      cases r with
      | folded value =>
        by_cases hvalue : value = op.absorbing
        · simp only [hvalue, if_true]
          exact (Run.Quiet.note rfl).bind fun _ => .pure _
        · simp only [hvalue, if_false]
          exact (Run.Quiet.note rfl).bind fun _ => .pure _
      | filter r => exact .pure _
  | not operand ih =>
    rw [lower]
    refine ih.bind fun lowered => ?_
    cases lowered with
    | folded value => exact .pure _
    | filter f => exact .pure _

theorem Database.quiet_execute (db : Database) (statement : Statement) :
    (db.execute statement).Quiet := by
  rw [execute_eq_executeBy]
  refine (Run.Quiet.note rfl).bind fun _ => (Run.Quiet.ofExcept _).bind fun tokens => ?_
  generalize Select.parse tokens = parse
  obtain ⟨parsed, positionals⟩ := parse
  refine (Run.Quiet.ofExcept _).bind fun s => ?_
  split
  · exact .error _
  · exact (Run.Quiet.ofExcept _).bind fun t => (Run.Quiet.ofExcept _).bind fun rows =>
      (Run.Quiet.note rfl).bind fun _ => .pure _

-- ---------------------------------------------------------------------------
-- Sessions
-- ---------------------------------------------------------------------------

namespace Session

variable {σ α β : Type}

/-- The action leaves the log as it was at the info level. -/
def Quiet (x : Action σ α) : Prop :=
  ∀ st, (x.run.run st).2.log.filter Event.isInfo = st.log.filter Event.isInfo

namespace Quiet

theorem pure (a : α) : Quiet (pure a : Action σ α) :=
  fun _ => rfl

theorem bind {x : Action σ α} {f : α → Action σ β} (hx : Quiet x) (hf : ∀ a, Quiet (f a)) :
    Quiet (x >>= f) := by
  intro st
  cases hrun : x.run.run st with
  | mk result st' =>
    have hlog := hx st
    rw [hrun] at hlog
    cases result with
    | error e => rw [run_bind_error hrun, hlog]
    | ok a => rw [run_bind_ok hrun, hf a st', hlog]

theorem note {e : Event} (h : e.isInfo = false) : Quiet (note e : Action σ Unit) := by
  intro st
  show (st.log ++ [e]).filter Event.isInfo = _
  simp [h]

theorem ofRun {run : Run QueryError α} (h : run.Quiet) : Quiet (ofRun run : Action σ α) := by
  intro st
  rw [run_ofRun, List.filter_append, h.filter_events, List.append_nil]

theorem tableFor (type : RecordType) : Quiet (tableFor type : Action σ Table) := by
  intro st
  rw [Session.tableFor, run_bind_ok run_get]
  cases st.registry.table? type.id with
  | some t => rfl
  | none =>
    have hnote : Quiet (Session.note (.registered type.table) : Action σ Unit) := note rfl
    exact hnote ⟨st.registry.register type.id type.table, st.store, st.log⟩

theorem prepare (s : Session σ) (type : RecordType) (p : Predicate) : Quiet (s.prepare type p) :=
  (tableFor type).bind fun _ => (ofRun (Scope.quiet_lower _ _)).bind fun _ => pure _

theorem send {s : Session σ} (hs : ∀ statement store, (s.execute statement store).1.Quiet)
    (statement : Statement) : Quiet (s.send statement) := by
  intro st
  exact ofRun ((hs statement st.store).mapError _)
    { st with store := (s.execute statement st.store).2 }

theorem materialize (type : RecordType) (rows : List Row) :
    Quiet (materialize type rows : Action σ (List Record)) :=
  (tableFor type).bind fun _ => (ofRun (.ofExcept _)).bind fun _ => (note rfl).bind fun _ => pure _

theorem select {s : Session σ} (hs : ∀ statement store, (s.execute statement store).1.Quiet)
    (type : RecordType) (p : Predicate) : Quiet (s.select type p) :=
  (prepare s type p).bind fun _ => (note rfl).bind fun _ => (send hs _).bind fun _ =>
    materialize type _

end Quiet

theorem Runs.quietly {x : Action σ α} {st : State σ} {result : Except QueryError α}
    {registry : Registry} {store : σ} (h : Runs x st result registry store) (hx : Quiet x) :
    ∃ log, x.run.run st = (result, ⟨registry, store, log⟩) ∧
      log.filter Event.isInfo = st.log.filter Event.isInfo := by
  obtain ⟨log, hlog⟩ := h
  have hinfo := hx st
  rw [hlog] at hinfo
  exact ⟨log, hlog, hinfo⟩

end Session

end PredicateSql
