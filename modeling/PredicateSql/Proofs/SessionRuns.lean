import PredicateSql.Proofs.StatementText

/-!
# Sessions over whole runs

A session takes steps on records of any number of types, and a type may be described anew before
each of them. `Runs.perform`: what a step comes to is `answer`, which only looks at the description
in use for its type and at the executor. A recording executor notes the statements it is given, and
so a whole run tells what was sent.
-/

namespace PredicateSql

-- ---------------------------------------------------------------------------
-- Descriptions in use
-- ---------------------------------------------------------------------------

namespace Registry

variable (r : Registry) (type : RecordType)

/-- The description in use for a type, which is its own if it has not been used before. -/
def tableOf : Table :=
  (r.table? type.id).getD type.table

def use : Registry :=
  match r.table? type.id with
  | some _ => r
  | none => r.register type.id type.table

theorem table?_register (id id' : TypeId) (t : Table) :
    (r.register id t).table? id' = if id' = id then some t else r.table? id' := by
  by_cases hid : id' = id
  · simp [hid, register, table?]
  · simp [hid, register, table?, List.lookup_cons, beq_false_of_ne hid]

theorem table?_use (id : TypeId) :
    (r.use type).table? id = if id = type.id then some (r.tableOf type) else r.table? id := by
  unfold use
  split
  next t ht =>
    by_cases hid : id = type.id
    · simp [hid, ht, tableOf]
    · simp [hid]
  next ht => simp [table?_register, ht, tableOf]

@[simp] theorem tableOf_use : (r.use type).tableOf type = r.tableOf type := by
  simp [tableOf, table?_use]

@[simp] theorem use_use : (r.use type).use type = r.use type := by
  have hsome : (r.use type).table? type.id = some (r.tableOf type) := by simp [table?_use]
  rw [use, hsome]

def ids : List TypeId :=
  r.entries.map (·.1)

theorem mem_ids (id : TypeId) : id ∈ r.ids ↔ (r.table? id).isSome = true := by
  rw [Option.isSome_iff_ne_none, Ne, table?, List.lookup_eq_none_iff]
  simp [ids]

theorem nodup_ids_use (h : r.ids.Nodup) : (r.use type).ids.Nodup := by
  unfold use
  split
  next => exact h
  next hnone =>
    refine List.nodup_cons.2 ⟨fun hmem => ?_, h⟩
    have hsome := (r.mem_ids type.id).1 hmem
    simp [hnone] at hsome

def useAll (types : List RecordType) : Registry :=
  types.foldl use r

def first? (types : List RecordType) (id : TypeId) : Option Table :=
  (types.find? (·.id == id)).map (·.table)

theorem first?_isSome (types : List RecordType) (id : TypeId) :
    (first? types id).isSome = true ↔ id ∈ types.map (·.id) := by
  simp [first?]

/-- A description that is in use stays, and any other is that of the first use. -/
theorem table?_useAll (types : List RecordType) (id : TypeId) :
    (r.useAll types).table? id = (r.table? id).or (first? types id) := by
  induction types generalizing r with
  | nil => simp [useAll, first?]
  | cons type types ih =>
    rw [useAll, List.foldl_cons, ← useAll, ih, table?_use]
    by_cases hid : id = type.id
    · cases h : r.table? type.id <;> simp [hid, first?, tableOf, h]
    · simp [hid, first?, beq_false_of_ne (Ne.symm hid)]

theorem nodup_ids_useAll (types : List RecordType) (h : r.ids.Nodup) :
    (r.useAll types).ids.Nodup := by
  induction types generalizing r with
  | nil => exact h
  | cons type types ih => exact ih (r.use type) (r.nodup_ids_use type h)

theorem size_useAll (types : List RecordType) :
    (empty.useAll types).size = (types.map (·.id)).dedup.length := by
  have hnodup : (empty.useAll types).ids.Nodup := empty.nodup_ids_useAll types List.nodup_nil
  have hmem : ∀ id, id ∈ (empty.useAll types).ids ↔ id ∈ (types.map (·.id)).dedup := by
    intro id
    rw [mem_ids, table?_useAll, List.mem_dedup, ← first?_isSome]
    rfl
  have hperm := (List.perm_ext_iff_of_nodup hnodup (List.nodup_dedup _)).2 hmem
  simpa [ids, size] using hperm.length_eq

end Registry

namespace Session

variable {σ α β : Type}

-- ---------------------------------------------------------------------------
-- Operations
-- ---------------------------------------------------------------------------

/-- From that state the action has that result and leaves these descriptions and that state of the
executor, whatever it notes for the log. -/
def Runs (x : Action σ α) (st : State σ) (result : Except QueryError α) (registry : Registry)
    (store : σ) : Prop :=
  ∃ log, x.run.run st = (result, ⟨registry, store, log⟩)

def compiled (style : Style) (t : Table) (p : Predicate) : Except QueryError Statement :=
  (Scope.lower ⟨t, t.record, p.parameter⟩ p.body).result.map fun lowered =>
    (t.select lowered).render style

namespace Runs

variable {st : State σ} {registry registry' : Registry} {store store' : σ}

theorem pure (a : α) (st : State σ) : Runs (pure a) st (.ok a) st.registry st.store :=
  ⟨st.log, rfl⟩

theorem error {e : QueryError} (st : State σ) :
    Runs (throw e : Action σ α) st (.error e) st.registry st.store :=
  ⟨st.log, rfl⟩

theorem bind {x : Action σ α} {f : α → Action σ β} {a : α} {result : Except QueryError β}
    (hx : Runs x st (.ok a) registry store)
    (hf : ∀ log, Runs (f a) ⟨registry, store, log⟩ result registry' store') :
    Runs (x >>= f) st result registry' store' := by
  obtain ⟨log, hx⟩ := hx
  obtain ⟨log', hf⟩ := hf log
  exact ⟨log', (run_bind_ok hx).trans hf⟩

theorem bind_error {x : Action σ α} {f : α → Action σ β} {e : QueryError}
    (hx : Runs x st (.error e) registry store) : Runs (x >>= f) st (.error e) registry store := by
  obtain ⟨log, hx⟩ := hx
  exact ⟨log, run_bind_error hx⟩

theorem note (e : Event) (st : State σ) : Runs (note e) st (.ok ()) st.registry st.store :=
  ⟨_, rfl⟩

theorem ofRun (run : Run QueryError α) (st : State σ) :
    Runs (ofRun run) st run.result st.registry st.store :=
  ⟨_, run_ofRun run st⟩

theorem tableFor (type : RecordType) (st : State σ) :
    Runs (tableFor type) st (.ok (st.registry.tableOf type)) (st.registry.use type) st.store := by
  have hget : (get : Action σ (State σ)).run.run st = (.ok st, st) := rfl
  rw [Session.tableFor, Runs, run_bind_ok hget]
  cases h : st.registry.table? type.id with
  | some t => exact ⟨st.log, by simp only [Registry.tableOf, Registry.use, h]; rfl⟩
  | none => exact ⟨_, by simp only [Registry.tableOf, Registry.use, h]; rfl⟩

theorem prepare (s : Session σ) (type : RecordType) (p : Predicate) (st : State σ) :
    Runs (s.prepare type p) st (compiled s.style (st.registry.tableOf type) p)
      (st.registry.use type) st.store := by
  refine (tableFor type st).bind fun log => ?_
  have hlower := ofRun (Scope.lower ⟨st.registry.tableOf type, (st.registry.tableOf type).record,
    p.parameter⟩ p.body) (⟨st.registry.use type, st.store, log⟩ : State σ)
  rw [compiled]
  generalize (Scope.lower _ p.body).result = lowered at hlower ⊢
  cases lowered with
  | error e => exact hlower.bind_error
  | ok lowered => exact hlower.bind fun log => pure _ _

theorem send (s : Session σ) (statement : Statement) (st : State σ) :
    Runs (s.send statement) st ((s.execute statement st.store).1.result.mapError .execution)
      st.registry (s.execute statement st.store).2 :=
  ofRun _ { st with store := (s.execute statement st.store).2 }

theorem materialize (type : RecordType) (rows : List Row) (st : State σ) :
    Runs (materialize type rows) st
      ((rows.mapM type.read).mapError (.materialize (st.registry.tableOf type).record))
      (st.registry.use type) st.store := by
  refine (tableFor type st).bind fun log => ?_
  have hread := ofRun (.ofExcept ((rows.mapM type.read).mapError
    (.materialize (st.registry.tableOf type).record)))
    (⟨st.registry.use type, st.store, log⟩ : State σ)
  rw [Run.result_ofExcept] at hread
  generalize (rows.mapM type.read).mapError _ = records at hread ⊢
  cases records with
  | error e => exact hread.bind_error
  | ok records => exact hread.bind fun log => (note _ _).bind fun log => pure _ _

end Runs

-- ---------------------------------------------------------------------------
-- Steps
-- ---------------------------------------------------------------------------

/-- A step of a session, with the record type as it is described at the time. -/
inductive Step
  | prepare (type : RecordType) (p : Predicate)
  | select (type : RecordType) (p : Predicate)
  | single (type : RecordType) (p : Predicate)
  | selectAll (type : RecordType)
  | tableFor (type : RecordType)

inductive Answer
  | statement (statement : Statement)
  | records (records : List Record)
  | record (record : Option Record)
  | table (t : Table)

namespace Step

def type : Step → RecordType
  | .prepare type _ => type
  | .select type _ => type
  | .single type _ => type
  | .selectAll type => type
  | .tableFor type => type

def query? : Step → Option Predicate
  | .prepare _ _ => none
  | .select _ p => some p
  | .single _ p => some p
  | .selectAll _ => some .all
  | .tableFor _ => none

def describe (t : Table) : Step → Step
  | .prepare type p => .prepare { type with table := t } p
  | .select type p => .select { type with table := t } p
  | .single type p => .single { type with table := t } p
  | .selectAll type => .selectAll { type with table := t }
  | .tableFor type => .tableFor { type with table := t }

def perform (s : Session σ) : Step → Action σ Answer
  | .prepare type p => .statement <$> s.prepare type p
  | .select type p => .records <$> s.select type p
  | .single type p => .record <$> s.single type p
  | .selectAll type => .records <$> s.selectAll type
  | .tableFor type => .table <$> Session.tableFor type

end Step

def found (s : Session σ) (t : Table) (type : RecordType) (p : Predicate) (store : σ) :
    Except QueryError (List Record) × σ :=
  match compiled s.style t p with
  | .error e => (.error e, store)
  | .ok statement =>
    let (run, store') := s.execute statement store
    (run.result.mapError .execution >>= fun rows =>
      (rows.mapM type.read).mapError (.materialize t.record), store')

def one (t : Table) : List Record → Except QueryError (Option Record)
  | [] => .ok none
  | [record] => .ok (some record)
  | records => .error (.multipleRows t.record records.length)

/-- What a step answers, if the table describes its type, and the executor's state after it. -/
def answer (s : Session σ) (t : Table) (store : σ) : Step → Except QueryError Answer × σ
  | .prepare _ p => ((compiled s.style t p).map .statement, store)
  | .select type p => ((s.found t type p store).1.map .records, (s.found t type p store).2)
  | .single type p =>
    (((s.found t type p store).1 >>= one t).map .record, (s.found t type p store).2)
  | .selectAll type => ((s.found t type .all store).1.map .records, (s.found t type .all store).2)
  | .tableFor _ => (.ok (.table t), store)

theorem answer_describe (s : Session σ) (t t' : Table) (store : σ) (step : Step) :
    s.answer t store (step.describe t') = s.answer t store step := by
  cases step <;> rfl

namespace Runs

variable {st : State σ} {registry : Registry} {store : σ}

theorem map {x : Action σ α} {result : Except QueryError α} (h : Runs x st result registry store)
    (f : α → β) : Runs (f <$> x) st (result.map f) registry store := by
  rw [← bind_pure_comp]
  cases result with
  | error e => exact h.bind_error
  | ok a => exact h.bind fun log => pure _ _

theorem select (s : Session σ) (type : RecordType) (p : Predicate) (st : State σ) :
    Runs (s.select type p) st (s.found (st.registry.tableOf type) type p st.store).1
      (st.registry.use type) (s.found (st.registry.tableOf type) type p st.store).2 := by
  have hprepare := prepare s type p st
  unfold found
  split
  next e he =>
    rw [he] at hprepare
    exact hprepare.bind_error
  next statement hstatement =>
    rw [hstatement] at hprepare
    refine hprepare.bind fun log => (note _ _).bind fun log => ?_
    have hsend := send s statement (⟨st.registry.use type, st.store, log⟩ : State σ)
    simp only at hsend
    generalize s.execute statement st.store = executed at hsend ⊢
    obtain ⟨run, store'⟩ := executed
    simp only at hsend ⊢
    generalize run.result.mapError QueryError.execution = rows at hsend ⊢
    cases rows with
    | error e => exact hsend.bind_error
    | ok rows =>
      refine hsend.bind fun log => ?_
      simpa [ok_bind] using materialize type rows (⟨st.registry.use type, store', log⟩ : State σ)

theorem single (s : Session σ) (type : RecordType) (p : Predicate) (st : State σ) :
    Runs (s.single type p) st
      ((s.found (st.registry.tableOf type) type p st.store).1 >>= one (st.registry.tableOf type))
      (st.registry.use type) (s.found (st.registry.tableOf type) type p st.store).2 := by
  have hselect := select s type p st
  generalize s.found (st.registry.tableOf type) type p st.store = found at hselect ⊢
  obtain ⟨records, store'⟩ := found
  cases records with
  | error e => exact hselect.bind_error
  | ok records =>
    refine hselect.bind fun log => ?_
    rcases records with _ | ⟨record, _ | ⟨record', records⟩⟩
    · exact pure _ _
    · exact pure _ _
    · have htable := tableFor type (⟨st.registry.use type, store', log⟩ : State σ)
      simp only [Registry.tableOf_use, Registry.use_use] at htable
      exact htable.bind fun log => error _

/-- What a step comes to depends on the description in use for its type and on the executor, and the
step uses its type. -/
theorem perform (s : Session σ) (step : Step) (st : State σ) :
    Runs (step.perform s) st (s.answer (st.registry.tableOf step.type) st.store step).1
      (st.registry.use step.type) (s.answer (st.registry.tableOf step.type) st.store step).2 := by
  cases step with
  | prepare type p => exact (prepare s type p st).map _
  | select type p => exact (select s type p st).map _
  | single type p => exact (single s type p st).map _
  | selectAll type => exact (select s type .all st).map _
  | tableFor type => exact (tableFor type st).map _

end Runs

-- ---------------------------------------------------------------------------
-- Runs
-- ---------------------------------------------------------------------------

/-- The session with an executor that also notes the statements it is given. -/
def recording (s : Session σ) : Session (σ × List Statement) where
  style := s.style
  execute statement store :=
    let (run, store') := s.execute statement store.1
    (run, (store', store.2 ++ [statement]))

def outcome (s : Session σ) (st : State σ) (step : Step) : Except QueryError Answer :=
  ((step.perform s).run.run st).1

def next (s : Session σ) (st : State σ) (step : Step) : State σ :=
  ((step.perform s).run.run st).2

def after (s : Session σ) (st : State σ) (steps : List Step) : State σ :=
  steps.foldl s.next st

def Step.statement? (style : Style) (t : Table) (step : Step) : Option Statement :=
  step.query?.bind fun p => (compiled style t p).toOption

theorem outcome_eq (s : Session σ) (st : State σ) (step : Step) :
    s.outcome st step = (s.answer (st.registry.tableOf step.type) st.store step).1 := by
  obtain ⟨log, hrun⟩ := Runs.perform s step st
  rw [outcome, hrun]

theorem next_eq (s : Session σ) (st : State σ) (step : Step) :
    (s.next st step).registry = st.registry.use step.type ∧
      (s.next st step).store = (s.answer (st.registry.tableOf step.type) st.store step).2 := by
  obtain ⟨log, hrun⟩ := Runs.perform s step st
  rw [next, hrun]
  exact ⟨rfl, rfl⟩

theorem found_recording (s : Session σ) (t : Table) (type : RecordType) (p : Predicate)
    (store : σ × List Statement) : (s.recording.found t type p store).2.2 =
      store.2 ++ (compiled s.style t p).toOption.toList := by
  have hstyle : s.recording.style = s.style := rfl
  rw [found, hstyle]
  cases compiled s.style t p with
  | error e => simp [Except.toOption]
  | ok statement => rfl

theorem answer_recording (s : Session σ) (t : Table) (store : σ × List Statement) (step : Step) :
    (s.recording.answer t store step).2.2 = store.2 ++ (step.statement? s.style t).toList := by
  cases step with
  | prepare type p => simp [answer, Step.statement?, Step.query?]
  | select type p => exact s.found_recording t type p store
  | single type p => exact s.found_recording t type p store
  | selectAll type => exact s.found_recording t type .all store
  | tableFor type => simp [answer, Step.statement?, Step.query?]

theorem registry_after (s : Session σ) (st : State σ) (steps : List Step) :
    (s.after st steps).registry = st.registry.useAll (steps.map Step.type) := by
  induction steps generalizing st with
  | nil => rfl
  | cons step steps ih =>
    rw [after, List.foldl_cons, ← after, ih, (s.next_eq st step).1]
    rfl

theorem sent_after (s : Session σ) (st : State (σ × List Statement)) (steps : List Step) :
    (s.recording.after st steps).store.2 = st.store.2 ++ steps.filterMap fun step =>
      step.statement? s.style ((st.registry.useAll (steps.map Step.type)).tableOf step.type) := by
  induction steps generalizing st with
  | nil => simp [after]
  | cons step steps ih =>
    obtain ⟨hregistry, hstore⟩ := s.recording.next_eq st step
    -- The description in use at a step is in use ever after.
    have htable : (st.registry.useAll ((step :: steps).map Step.type)).tableOf step.type =
        st.registry.tableOf step.type := by
      cases h : st.registry.table? step.type.id <;>
        simp [Registry.tableOf, Registry.table?_useAll, Registry.first?, h]
    have huse : (s.recording.next st step).registry.useAll (steps.map Step.type) =
        st.registry.useAll ((step :: steps).map Step.type) := by
      rw [hregistry]
      rfl
    rw [after, List.foldl_cons, ← after, ih, huse, hstore, answer_recording,
      List.filterMap_cons, htable]
    cases step.statement? s.style (st.registry.tableOf step.type) <;> simp

/-- A step comes to what it does in a new session where its type has the description in use. -/
theorem step_eq_describe (s : Session σ) (st : State σ) (step : Step) {t : Table}
    (ht : st.registry.tableOf step.type = t) :
    s.outcome st step = s.outcome (.start st.store) (step.describe t) ∧
      (s.next st step).store = (s.next (.start st.store) (step.describe t)).store := by
  have hfresh : (State.start st.store).registry.tableOf (step.describe t).type = t := by
    cases step <;> rfl
  rw [outcome_eq, outcome_eq, (s.next_eq _ _).2, (s.next_eq _ _).2, hfresh, ht, answer_describe]
  exact ⟨rfl, rfl⟩

/-- Whatever steps a session takes and whatever its executor does, each type keeps the description
that it gave at its first use, and the registry has one for each type used. A step comes to what it
would in a new session where its type is so described, and leaves the other types alone. The
executor is given the statement of each step that asks for records and compiles, once and in order,
and no other. -/
theorem sent_of_steps (s : Session σ) (store : σ) (steps : List Step) :
    let st := s.recording.after (.start (store, [])) steps
    let inUse (type : RecordType) := (Registry.first? (steps.map Step.type) type.id).getD type.table
    (∀ id, st.registry.table? id = Registry.first? (steps.map Step.type) id) ∧
    st.registry.size = (steps.map (·.type.id)).dedup.length ∧
    (∀ more id t, st.registry.table? id = some t →
      (s.recording.after st more).registry.table? id = some t) ∧
    (∀ step : Step,
      (∀ id, id ≠ step.type.id →
        (s.recording.next st step).registry.table? id = st.registry.table? id) ∧
      s.recording.outcome st step =
        s.recording.outcome (.start st.store) (step.describe (inUse step.type)) ∧
      (s.recording.next st step).store =
        (s.recording.next (.start st.store) (step.describe (inUse step.type))).store) ∧
    (∀ type p, ((s.recording.prepare type p).run.run st).1 = compiled s.style (inUse type) p) ∧
    st.store.2 = steps.filterMap fun step => step.statement? s.style (inUse step.type) := by
  intro st inUse
  have hregistry : st.registry = Registry.empty.useAll (steps.map Step.type) :=
    s.recording.registry_after _ steps
  have hfirst : ∀ id, st.registry.table? id = Registry.first? (steps.map Step.type) id := by
    intro id
    rw [hregistry, Registry.table?_useAll]
    rfl
  have hinUse : ∀ type, st.registry.tableOf type = inUse type := by
    intro type
    rw [Registry.tableOf, hfirst]
  refine ⟨hfirst, ?_, ?_, fun step => ⟨fun id hid => ?_, ?_⟩, fun type p => ?_, ?_⟩
  · rw [hregistry, Registry.size_useAll, List.map_map]
    rfl
  · intro more id t ht
    rw [registry_after, Registry.table?_useAll, ht]
    rfl
  · rw [(s.recording.next_eq st step).1, Registry.table?_use, if_neg hid]
  · exact s.recording.step_eq_describe st step (hinUse step.type)
  · obtain ⟨log, hprepare⟩ := Runs.prepare s.recording type p st
    rw [hprepare, hinUse]
    rfl
  · rw [s.sent_after _ steps]
    simp only [← hinUse, hregistry]
    rfl

theorem sent_of_steps_renamed :
    let renamed : RecordType :=
      { Demo.testType with table := ⟨"TestType", "Renamed", [⟨"IntColumn", "n", .int32⟩]⟩ }
    let refusing : Session Unit := ⟨.question, fun _ store => (.error ⟨"refused", []⟩, store)⟩
    let st := refusing.recording.after (.start ((), []))
      [.select Demo.testType (.build fun q => q "Missing"), .selectAll renamed,
        .prepare renamed (.build fun q => q "BoolColumn"), .tableFor { renamed with id := 1 },
        .single renamed (.build fun q => .compare .gt (q "IntColumn") (Demo.int 2))]
    st.registry.size = 2 ∧ st.registry.table? 0 = some Demo.testType.table ∧
    st.store.2 =
      [⟨"SELECT IntColumn, BoolColumn, StringColumn FROM TestType", []⟩,
        ⟨"SELECT IntColumn, BoolColumn, StringColumn FROM TestType WHERE IntColumn > ?",
          [⟨"?", .int32 2⟩]⟩] := by
  intro renamed refusing st
  obtain ⟨hfirst, hsize, -, -, -, hsent⟩ := sent_of_steps refusing () _
  exact ⟨hsize, hfirst 0, hsent.trans (by cbv)⟩

end Session

end PredicateSql
