import PredicateSql.Proofs.RowValues
import PredicateSql.Proofs.StatementText

/-!
# What a database holds

What each operation does, as a program that may fail on its way: which of them only read
(`Action.Reads`), and where the others succeed (`create_cases`, `insert_cases`).
`Database.Holds t db rows`: the database was given the table and these rows of it, in this order.
Operations keep what it holds of other tables, so that the stored table is known (`Holds.stored`),
and with it what a statement on it returns.
-/

namespace PredicateSql

-- ---------------------------------------------------------------------------
-- Rows that a table accepts
-- ---------------------------------------------------------------------------

theorem Value.fits_iff {v : Value} {t : DataType} :
    v.fits t = true ↔ v = .null ∨ v.type? = some t := by
  cases v <;> simp [Value.fits, Value.type?]

namespace StoredTable

def Accepts (st : StoredTable) (row : List Value) : Prop :=
  row.length = st.columns.length ∧
    ∀ p ∈ st.columns.zip row, p.2 = .null ∨ p.2.type? = some p.1.2

theorem accepts_iff {t : Table} {st : StoredTable} {row : List Value}
    (hcolumns : st.columns = (ofTable t).columns) : st.Accepts row ↔ t.accepts row = true := by
  simp only [Accepts, Table.accepts, hcolumns, ofTable, List.length_map, List.zip_map_left,
    List.mem_map, Bool.and_eq_true, beq_iff_eq, List.all_eq_true, Value.fits_iff]
  constructor
  · rintro ⟨hlength, hfits⟩
    exact ⟨hlength, fun p hp => hfits _ ⟨p, hp, rfl⟩⟩
  · rintro ⟨hlength, hfits⟩
    refine ⟨hlength, ?_⟩
    rintro _ ⟨p, hp, rfl⟩
    exact hfits p hp

end StoredTable

-- ---------------------------------------------------------------------------
-- Operations that read
-- ---------------------------------------------------------------------------

namespace Database

variable {α β : Type}

theorem run_find (name : String) (s : State) :
    (find name).run.run s = (s.database.table name, s) := by
  rw [find, run_bind_ok run_get]
  exact run_liftExcept _

/-- The operation leaves every table as it was. It comes to what the run comes to, and notes the
same events. -/
def Action.Reads (x : Action α) (run : Database → Run DatabaseError α) : Prop :=
  ∀ st, x.run.run st =
    ((run st.database).result, ⟨st.database, st.log ++ (run st.database).events⟩)

namespace Action.Reads

variable {x : Action α} {run : Database → Run DatabaseError α}

theorem on_eq (h : x.Reads run) (db : Database) : x.on db = (run db, db) := by
  rw [Action.on, h ⟨db, []⟩]
  rfl

theorem pure (a : α) : Reads (pure a) fun _ => pure a := by
  intro st
  show (Except.ok a, st) = (Except.ok a, (⟨st.database, st.log ++ []⟩ : State))
  rw [List.append_nil]

theorem ofExcept (y : Except DatabaseError α) : Reads (liftM y) fun _ => .ofExcept y := by
  intro st
  rw [run_liftExcept]
  show (y, st) = (y, (⟨st.database, st.log ++ []⟩ : State))
  rw [List.append_nil]

theorem throw (e : DatabaseError) : Reads (throw e : Action α) fun _ => .error e :=
  ofExcept (.error e)

theorem note (e : Event) : Reads (note e) fun _ => .note e :=
  fun _ => rfl

theorem bind {f : α → Action β} {g : Database → α → Run DatabaseError β} (hx : x.Reads run)
    (hf : ∀ a, (f a).Reads fun db => g db a) : Reads (x >>= f) fun db => run db >>= g db := by
  intro st
  show _ = ((run st.database >>= g st.database).result,
    (⟨st.database, st.log ++ (run st.database >>= g st.database).events⟩ : State))
  have hrun := hx st
  cases hresult : (run st.database).result with
  | ok a =>
    rw [hresult] at hrun
    rw [run_bind_ok hrun, hf a, Run.bind_of_ok hresult, ← List.append_assoc]
  | error e =>
    rw [hresult] at hrun
    rw [run_bind_error hrun, Run.bind_of_error hresult]

theorem find (name : String) : Reads (find name) fun db => .ofExcept (db.table name) := by
  intro st
  rw [run_find, ← run_liftExcept]
  exact ofExcept _ st

end Action.Reads

/-- Execution of a statement, with the rows selected by a function of choice. -/
def executeBy (select : StoredTable → Select Reference → List Parameter →
      Except ConditionError (List Row)) (db : Database) (statement : Statement) :
    Run DatabaseError (List Row) := do
  .note (.executing statement)
  let tokens ← .ofExcept ((Token.scan statement.text).mapError .lexing)
  let (parsed, positionals) := Select.parse tokens
  let s ← .ofExcept (parsed.mapError (.parsing statement.text))
  if statement.parameters.length < positionals then
    .error (.tooFewParameters positionals statement.parameters.length)
  else
    let t ← .ofExcept (db.table s.table)
    let rows ← .ofExcept ((select t s statement.parameters).mapError .condition)
    .note (.returned rows.length s.table)
    return rows

theorem reads_query (statement : Statement) :
    (query statement).Reads fun db => db.executeBy StoredTable.select statement := by
  refine (Action.Reads.note _).bind fun _ => (Action.Reads.ofExcept _).bind fun tokens => ?_
  obtain ⟨parsed, positionals⟩ := Select.parse tokens
  refine (Action.Reads.ofExcept _).bind fun s => ?_
  split
  next hfew =>
    intro st
    exact run_bind_error (Action.Reads.throw _ st)
  next =>
    exact (Action.Reads.find _).bind fun t => (Action.Reads.ofExcept _).bind fun rows =>
      (Action.Reads.note _).bind fun _ => .pure rows

theorem execute_eq_executeBy (db : Database) (statement : Statement) :
    db.execute statement = db.executeBy StoredTable.select statement := by
  rw [execute, (reads_query statement).on_eq]

theorem executor_eq (statement : Statement) (db : Database) :
    executor statement db = ((db.execute statement).mapError DatabaseError.report, db) := by
  rw [executor, execute, (reads_query statement).on_eq]

theorem reads_rowCount (name : String) :
    (rowCount name).Reads fun db => .ofExcept (db.table name) >>= fun t => pure t.rows.length :=
  (Action.Reads.find name).bind fun t => .pure t.rows.length

-- ---------------------------------------------------------------------------
-- Operations that change a table
-- ---------------------------------------------------------------------------

theorem table_eq_ok {db : Database} {name : String} {st : StoredTable} :
    db.table name = .ok st ↔ db.tables.lookup name = some st := by
  unfold table
  cases db.tables.lookup name <;> simp

theorem create_cases (t : Table) (s : State) :
    s.database.tables.lookup t.name = none ∧
        (create t).run.run s = (.ok (), ⟨s.database.add t.name (.ofTable t),
          s.log ++ [.tableCreated t.name]⟩) ∨
      s.database.tables.lookup t.name ≠ none ∧
        ∃ e, (create t).run.run s = (.error e, s) := by
  rw [create, run_bind_ok run_get]
  cases hlookup : s.database.tables.lookup t.name with
  | none => exact .inl ⟨rfl, rfl⟩
  | some st => exact .inr ⟨by simp, _, rfl⟩

/-- The checks of a row stop at the first value that does not fit, and change nothing. -/
theorem forM_check_cases (cells : List ((String × DataType) × Value)) (s : State) :
    (∀ p ∈ cells, p.2.fits p.1.2 = true) ∧ (cells.forM check).run.run s = (.ok (), s) ∨
      (∃ p ∈ cells, p.2.fits p.1.2 = false) ∧
        ∃ e, (cells.forM check).run.run s = (.error e, s) := by
  induction cells with
  | nil => exact .inl ⟨by simp, rfl⟩
  | cons cell cells ih =>
    obtain ⟨⟨column, type⟩, value⟩ := cell
    cases hfits : value.fits type with
    | false =>
      have hcheck : (check ((column, type), value)).run.run s =
          (.error (.invalidValue value column type), s) := by
        simp only [check, hfits]
        rfl
      exact .inr ⟨⟨_, List.mem_cons_self, hfits⟩, _, run_bind_error hcheck⟩
    | true =>
      have hcheck : (check ((column, type), value)).run.run s = (.ok (), s) := by
        simp only [check, hfits]
        rfl
      have hrun : (List.forM (((column, type), value) :: cells) check).run.run s =
          (cells.forM check).run.run s := run_bind_ok hcheck
      rcases ih with ⟨hall, hrest⟩ | ⟨⟨p, hp, hnot⟩, e, hrest⟩
      · exact .inl ⟨by simpa [hfits] using hall, hrun.trans hrest⟩
      · exact .inr ⟨⟨p, List.mem_cons_of_mem _ hp, hnot⟩, e, hrun.trans hrest⟩

/-- A row is appended where the table is there and accepts it. Anywhere else the operation stops
before the table is touched. -/
theorem insert_cases (name : String) (values : List Value) (s : State) :
    (∃ st, s.database.tables.lookup name = some st ∧ st.Accepts values) ∧
        (insert name values).run.run s =
          (.ok (), { s with database := s.database.update name (·.push values) }) ∨
      (¬ ∃ st, s.database.tables.lookup name = some st ∧ st.Accepts values) ∧
        ∃ e, (insert name values).run.run s = (.error e, s) := by
  have hfind := run_find name s
  cases hlookup : s.database.tables.lookup name with
  | none =>
    rw [table, hlookup] at hfind
    exact .inr ⟨by simp, _, run_bind_error hfind⟩
  | some st =>
    rw [table_eq_ok.2 hlookup] at hfind
    rw [insert, run_bind_ok hfind]
    by_cases hlength : values.length = st.columns.length
    · rw [if_neg (not_not.2 hlength)]
      rcases forM_check_cases (st.columns.zip values) s with ⟨hall, hrun⟩ | ⟨⟨p, hp, hnot⟩, e, hrun⟩
      · refine .inl ⟨⟨st, rfl, hlength, fun p hp => Value.fits_iff.1 (hall p hp)⟩, ?_⟩
        exact run_bind_ok hrun
      · refine .inr ⟨?_, e, run_bind_error hrun⟩
        rintro ⟨_, ⟨⟩, haccepts⟩
        simp [Value.fits_iff.2 (haccepts.2 p hp)] at hnot
    · rw [if_pos hlength]
      refine .inr ⟨?_, _, run_bind_error rfl⟩
      rintro ⟨_, ⟨⟩, haccepts⟩
      exact hlength haccepts.1

theorem lookup_cons_of_ne {key key' : String} (h : key ≠ key') (st : StoredTable)
    (tables : List (String × StoredTable)) :
    ((key', st) :: tables).lookup key = tables.lookup key := by
  simp [List.lookup_cons, beq_false_of_ne h]

theorem lookup_update (db : Database) (name other : String) (f : StoredTable → StoredTable) :
    (db.update name f).tables.lookup other =
      (db.tables.lookup other).map fun old => if other = name then f old else old := by
  simp only [update]
  induction db.tables with
  | nil => rfl
  | cons entry tables ih =>
    obtain ⟨key, old⟩ := entry
    have hentry : (if key = name then (name, f old) else (key, old)) =
        (key, if key = name then f old else old) := by
      split <;> simp_all
    rw [List.map_cons, hentry]
    by_cases hkey : other = key
    · subst hkey
      simp
    · rw [lookup_cons_of_ne hkey, lookup_cons_of_ne hkey, ih]

def Action.Leaves (x : Action Unit) (db db' : Database) : Prop :=
  (x.on db).1.result = .ok () ∧ (x.on db).2 = db'

theorem Action.leaves_iff {x : Action Unit} {db db' : Database} :
    x.Leaves db db' ↔ ∃ log, x.run.run ⟨db, []⟩ = (.ok (), ⟨db', log⟩) := by
  simp only [Leaves, on]
  obtain ⟨result, database, log⟩ := x.run.run ⟨db, []⟩
  constructor
  · rintro ⟨rfl, rfl⟩
    exact ⟨log, rfl⟩
  · rintro ⟨_, ⟨⟩⟩
    exact ⟨rfl, rfl⟩

theorem create_ok {db db' : Database} {t : Table} (h : (create t).Leaves db db') :
    db.tables.lookup t.name = none ∧ db' = db.add t.name (.ofTable t) := by
  obtain ⟨log, h⟩ := Action.leaves_iff.1 h
  rcases create_cases t ⟨db, []⟩ with ⟨hnone, hrun⟩ | ⟨-, e, hrun⟩
  · cases h.symm.trans hrun
    exact ⟨hnone, rfl⟩
  · cases h.symm.trans hrun

theorem insert_ok {db db' : Database} {name : String} {row : List Value}
    (h : (insert name row).Leaves db db') :
    (∃ st, db.tables.lookup name = some st ∧ st.Accepts row) ∧
      db' = db.update name (·.push row) := by
  obtain ⟨log, h⟩ := Action.leaves_iff.1 h
  rcases insert_cases name row ⟨db, []⟩ with ⟨haccepts, hrun⟩ | ⟨-, e, hrun⟩
  · cases h.symm.trans hrun
    exact ⟨haccepts, rfl⟩
  · cases h.symm.trans hrun

/-- The database was given the table and these rows of it; whatever else it was given does not
matter. -/
inductive Holds (t : Table) : Database → List (List Value) → Prop
  | create {db db' : Database} : (create t).Leaves db db' → Holds t db' []
  | insert {db db' : Database} {rows row} : Holds t db rows →
      (insert t.name row).Leaves db db' → Holds t db' (rows ++ [row])
  | createOther {db db' : Database} {other rows} : Holds t db rows →
      (Database.create other).Leaves db db' → Holds t db' rows
  | insertOther {db db' : Database} {name row rows} : Holds t db rows → name ≠ t.name →
      (Database.insert name row).Leaves db db' → Holds t db' rows

theorem Holds.stored {t : Table} {db : Database} {rows : List (List Value)} (h : Holds t db rows) :
    ∃ st, db.table t.name = .ok st ∧ st.columns = (StoredTable.ofTable t).columns ∧
      st.rows = rows ∧ ∀ row ∈ rows, t.accepts row = true := by
  induction h with
  | create h =>
    obtain ⟨-, rfl⟩ := create_ok h
    exact ⟨.ofTable t, table_eq_ok.2 (by simp [add]), rfl, rfl, by simp⟩
  | @insert db db' rows row _ h ih =>
    obtain ⟨st, hst, hcolumns, rfl, hrows⟩ := ih
    obtain ⟨⟨st', hst', haccepts⟩, rfl⟩ := insert_ok h
    rw [table_eq_ok] at hst
    cases hst.symm.trans hst'
    refine ⟨st.push row, ?_, hcolumns, st.rows_push row, ?_⟩
    · simp [table_eq_ok, lookup_update, hst]
    · intro row' hrow
      rcases List.mem_append.1 hrow with hrow | hrow
      · exact hrows row' hrow
      · rw [List.mem_singleton.1 hrow]
        exact (StoredTable.accepts_iff hcolumns).1 haccepts
  | @createOther db db' other rows _ h ih =>
    obtain ⟨st, hst, hrest⟩ := ih
    obtain ⟨hnone, rfl⟩ := create_ok h
    have hne : t.name ≠ other.name := by
      intro heq
      rw [table_eq_ok, heq, hnone] at hst
      cases hst
    refine ⟨st, ?_, hrest⟩
    rw [table_eq_ok] at hst ⊢
    rw [add, lookup_cons_of_ne hne, hst]
  | @insertOther db db' name row rows _ hne h ih =>
    obtain ⟨st, hst, hrest⟩ := ih
    obtain ⟨-, rfl⟩ := insert_ok h
    refine ⟨st, ?_, hrest⟩
    rw [table_eq_ok] at hst ⊢
    simp [lookup_update, hst, Ne.symm hne]

theorem Holds.insertAll {t : Table} {db : Database} {rows new : List (List Value)}
    (h : Holds t db rows) (hnew : ∀ row ∈ new, t.accepts row = true) (log : List Event) :
    ∃ db', (new.forM (insertRecord t)).run.run ⟨db, log⟩ = (.ok (), ⟨db', log⟩) ∧
      Holds t db' (rows ++ new) := by
  induction new generalizing db rows with
  | nil => exact ⟨db, rfl, by rwa [List.append_nil]⟩
  | cons row new ih =>
    obtain ⟨st, hst, hcolumns, -, -⟩ := h.stored
    have haccepts := (StoredTable.accepts_iff hcolumns).2 (hnew row List.mem_cons_self)
    have hinsert : ∀ log, (Database.insert t.name row).run.run ⟨db, log⟩ =
        (.ok (), ⟨db.update t.name (·.push row), log⟩) := by
      intro log
      rcases insert_cases t.name row ⟨db, log⟩ with ⟨-, hrun⟩ | ⟨hnot, -⟩
      · exact hrun
      · exact absurd ⟨st, table_eq_ok.1 hst, haccepts⟩ hnot
    obtain ⟨db', hrest, hholds⟩ := ih (h.insert (Action.leaves_iff.2 ⟨[], hinsert []⟩))
      fun row hrow => hnew row (List.mem_cons_of_mem _ hrow)
    have hrecord : (insertRecord t row).run.run ⟨db, log⟩ =
        (.ok (), ⟨db.update t.name (·.push row), log⟩) := by
      rw [insertRecord, run_adapt, hinsert]
      rfl
    exact ⟨db', (run_bind_ok hrecord).trans hrest, by simpa using hholds⟩

end Database

-- ---------------------------------------------------------------------------
-- Selections
-- ---------------------------------------------------------------------------

namespace StoredTable

variable {t : Table} {st : StoredTable}

theorem columnIndex_append {before after : List (String × DataType)} {column : String × DataType}
    (hcolumns : st.columns = before ++ column :: after) (hn : (st.columns.map (·.1)).Nodup) :
    st.columnIndex column.1 = .ok before.length := by
  have hbefore : before.findIdx? (·.1 == column.1) = none := by
    rw [List.findIdx?_eq_none_iff]
    intro other hother
    rw [hcolumns, List.map_append, List.nodup_append] at hn
    simpa using hn.2.2 _ (List.mem_map_of_mem hother) column.1 (by simp)
  have hindex : st.columns.findIdx? (·.1 == column.1) = some before.length := by
    simp [hcolumns, List.findIdx?_append, hbefore, List.findIdx?_cons]
  simp [columnIndex, hindex]

theorem mapM_columnIndex (before : List (String × DataType)) {after : List (String × DataType)}
    (hcolumns : st.columns = before ++ after) (hn : (st.columns.map (·.1)).Nodup) :
    (after.map (·.1)).mapM st.columnIndex = .ok (List.range' before.length after.length) := by
  induction after generalizing before with
  | nil => rfl
  | cons column after ih =>
    have htail := ih (before ++ [column]) (by simpa using hcolumns)
    rw [List.map_cons, List.mapM_cons, columnIndex_append hcolumns hn, htail]
    simp [List.range'_succ, bind, Except.bind, pure, Except.pure]

theorem project_columnNames (hcolumns : st.columns = (ofTable t).columns)
    (hn : t.columnNames.Nodup) :
    st.project (.columns t.columnNames) = .ok (List.range t.columns.length) := by
  have hnames : t.columnNames = st.columns.map (·.1) := by
    simp [hcolumns, ofTable, Table.columnNames, Function.comp_def]
  have hlength : st.columns.length = t.columns.length := by simp [hcolumns, ofTable]
  rw [hnames] at hn ⊢
  rw [project, mapM_columnIndex [] rfl hn, hlength, List.range_eq_range']
  rfl

def matching (st : StoredTable) (filter : Option (Condition Reference))
    (parameters : List Parameter) : Except ConditionError (List (List Value)) :=
  match filter with
  | none => pure st.rows
  | some c => st.rows.filterM fun row => c.selects (st.env parameters row)

theorem select_eq (st : StoredTable) (s : Select Reference) (parameters : List Parameter) :
    st.select s parameters =
      st.project s.projection >>= fun indices => st.matching s.filter parameters >>= fun rows =>
        pure (rows.map fun row => ⟨indices.filterMap fun i => st.columns[i]?.map (·.1),
          indices.filterMap (row[·]?)⟩) := by
  unfold select matching
  cases s.filter <;> rfl

theorem mem_of_matching {filter : Option (Condition Reference)} {parameters : List Parameter}
    {rows : List (List Value)} (h : st.matching filter parameters = .ok rows) :
    ∀ row ∈ rows, row ∈ st.rows := by
  cases filter with
  | none =>
    cases h
    exact fun _ => id
  | some c => exact fun row hrow => (mem_of_filterM h row hrow).1

theorem select_columnNames (hcolumns : st.columns = (ofTable t).columns)
    (hn : t.columnNames.Nodup) (hrows : ∀ row ∈ st.rows, t.accepts row = true)
    (filter : Option (Condition Reference)) (parameters : List Parameter) :
    st.select ⟨.columns t.columnNames, t.name, filter⟩ parameters =
      (st.matching filter parameters).map (List.map (Row.mk t.columnNames)) := by
  have hnames : ((List.range t.columns.length).filterMap fun i => st.columns[i]?.map (·.1)) =
      t.columnNames := by
    have hget := filterMap_range_getElem? (t.columns.map (·.name))
    simpa [hcolumns, ofTable, Table.columnNames, Function.comp_def] using hget
  have hrow : ∀ row ∈ st.rows, (List.range t.columns.length).filterMap (row[·]?) = row := by
    intro row hmem
    have haccepts := hrows row hmem
    simp only [Table.accepts, Bool.and_eq_true, beq_iff_eq] at haccepts
    rw [← haccepts.1]
    exact filterMap_range_getElem? row
  rw [select_eq, project_columnNames hcolumns hn]
  cases hmatching : st.matching filter parameters with
  | error e => rfl
  | ok rows =>
    have hkept : rows.map (fun row => Row.mk t.columnNames
        ((List.range t.columns.length).filterMap (row[·]?))) = rows.map (Row.mk t.columnNames) := by
      refine List.map_congr_left fun row hmem => ?_
      rw [hrow row (mem_of_matching hmatching row hmem)]
    simp [bind, Except.bind, pure, Except.pure, Except.map, hnames, hkept]

end StoredTable

theorem Database.execute_of_parse {text : String} {ts : List Token} {s : Select Reference}
    {count : Nat} (hscan : Token.scan text = .ok ts) (hparse : Select.parse ts = (.ok s, count))
    (db : Database) (parameters : List Parameter) :
    (db.execute ⟨text, parameters⟩).result =
      if parameters.length < count then .error (.tooFewParameters count parameters.length)
      else db.table s.table >>= fun t => (t.select s parameters).mapError .condition := by
  rw [execute_eq_executeBy]
  simp only [executeBy, Run.result_bind, Run.result_note, Run.result_ofExcept, hscan, mapError_ok,
    ok_bind, hparse]
  split
  · rfl
  · cases db.table s.table with
    | error e => rfl
    | ok t =>
      simp only [Run.result_bind, Run.result_ofExcept, ok_bind]
      cases t.select s parameters <;> rfl

theorem Database.execute_selects {db : Database} {st : StoredTable} {t : Table}
    {statement : Statement} {style : Style} {filter : Option (Condition Value)}
    (h : statement.Selects style t filter) (htable : db.table t.name = .ok st) :
    (db.execute statement).result =
      (st.select ⟨.columns t.columnNames, t.name, filter.map (·.relabel style.reference 0)⟩
        statement.parameters).mapError .condition := by
  obtain ⟨tokens, count, hscan, hparse, hcount⟩ := h.parse
  refine (execute_of_parse hscan hparse db statement.parameters).trans ?_
  rw [if_neg (Nat.not_lt.2 hcount), htable, ok_bind]

-- ---------------------------------------------------------------------------
-- The statement of a predicate
-- ---------------------------------------------------------------------------

def Lowered.selects (env : Env Value) (lowered : Lowered) : Except ConditionError Bool := do
  return (← Truth.ofValue (← lowered.eval env)) == some true

theorem StoredTable.matching_filter? (st : StoredTable) (style : Style) (lowered : Lowered) :
    st.matching (lowered.residue.filter?.map (·.relabel style.reference 0))
        (style.parameters 0 (boundValues lowered.residue.filter?)) =
      st.rows.filterM fun row => lowered.selects (st.rowEnv row) := by
  match lowered with
  | .folded true =>
    have hall : st.rows.filter (fun _ => true) = st.rows := List.filter_eq_self.2 fun _ _ => rfl
    exact (congrArg Except.ok hall.symm).trans (filterM_ok fun _ _ => rfl).symm
  | .folded false =>
    simp [matching, Lowered.residue, Residue.filter?, Condition.selects, boundValues, eval_bound]
    rfl
  | .filter f =>
    simp [matching, Lowered.residue, Residue.filter?, Condition.selects, boundValues, eval_bound]
    rfl

/-- Executing the statement of a predicate returns the rows that its lowered form selects. -/
theorem Database.Holds.execute_lowered {s : Scope} {e : Expr} {lowered : Lowered} {style : Style}
    {db : Database} {rows : List (List Value)} (hdb : db.Holds s.table rows)
    (h : s.Lowers e lowered) (ht : s.table.Writable) (hn : s.table.columnNames.Nodup)
    (hs : style.Covers ((s.table.select lowered).render style).parameters.length) :
    (db.execute ((s.table.select lowered).render style)).result =
      ((rows.filterM fun row => lowered.selects ((StoredTable.ofTable s.table).rowEnv row)).map
        (List.map (Row.mk s.table.columnNames))).mapError .condition := by
  obtain ⟨st, htable, hcolumns, rfl, haccepts⟩ := hdb.stored
  have hselects := h.selects ht hs
  have henv : st.rowEnv = (StoredTable.ofTable s.table).rowEnv := by
    funext row
    simp [StoredTable.rowEnv, StoredTable.env, StoredTable.columnIndex, hcolumns]
  rw [execute_selects hselects htable, StoredTable.select_columnNames hcolumns hn haccepts,
    hselects.parameters, StoredTable.matching_filter?, henv]

end PredicateSql
