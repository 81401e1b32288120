import PredicateSql.Proofs.Bounds

/-!
# Databases over whole runs

The calls that a new database is given one after another (`Database.History`), and the changes that
they made. `Change.Traces`: what the tables hold is known from the changes, and every row fits its
table. Each call keeps that (`traces_call`), and so does a whole run of them.
-/

namespace PredicateSql

namespace Database

variable {db : Database} {name : String} {st : StoredTable}

structure WellFormed (db : Database) : Prop where
  names : (db.tables.map (·.1)).Nodup
  rows : ∀ entry ∈ db.tables, entry.2.WellFormed

theorem lookup_of_mem {tables : List (String × StoredTable)} (hn : (tables.map (·.1)).Nodup)
    (h : (name, st) ∈ tables) : tables.lookup name = some st := by
  induction tables with
  | nil => cases h
  | cons entry tables ih =>
    obtain ⟨hnew, hn⟩ := List.nodup_cons.1 hn
    rcases List.mem_cons.1 h with rfl | h
    · simp
    · have hne : name ≠ entry.1 := by
        rintro rfl
        exact hnew (List.mem_map.2 ⟨_, h, rfl⟩)
      rw [lookup_cons_of_ne hne, ih hn h]

theorem WellFormed.of_lookup (h : db.WellFormed) (hst : db.tables.lookup name = some st) :
    st.WellFormed := by
  obtain ⟨before, after, htables, -⟩ := List.lookup_eq_some_iff.1 hst
  exact h.rows (name, st) (by simp [htables])

theorem WellFormed.of_table (h : db.WellFormed) (hst : db.table name = .ok st) : st.WellFormed :=
  h.of_lookup (table_eq_ok.1 hst)

theorem table_congr {db db' : Database} (h : db'.tables.lookup name = db.tables.lookup name) :
    db'.table name = db.table name := by
  rw [table, table, h]

end Database

-- ---------------------------------------------------------------------------
-- Calls
-- ---------------------------------------------------------------------------

namespace Database

inductive Call
  | create (t : Table)
  /-- Adds the table of a record type, as the type describes it now. -/
  | createFor (type : RecordType)
  | insert (name : String) (values : List Value)
  | insertRecord (t : Table) (values : List Value)
  | rowCount (name : String)
  | execute (statement : Statement)

inductive Answer
  | done
  | count (rows : Nat)
  | rows (rows : List Row)

def Call.action : Call → Action Answer
  | .create t => do
    Database.create t
    return .done
  | .createFor type => do
    Database.create type.table
    return .done
  | .insert name values => do
    Database.insert name values
    return .done
  | .insertRecord t values => do
    Database.insertRecord t values
    return .done
  | .rowCount name => do
    return .count (← Database.rowCount name)
  | .execute statement => do
    return .rows (← query statement)

def call (db : Database) (c : Call) : Except Report Answer × Database :=
  let (run, db') := c.action.on db
  (run.result.mapError DatabaseError.report, db')

inductive Change
  | create (t : Table)
  | insert (name : String) (values : List Value)

def Call.change? : Call → Option Change
  | .create t => some (.create t)
  | .createFor type => some (.create type.table)
  | .insert name values => some (.insert name values)
  | .insertRecord t values => some (.insert t.name values)
  | .rowCount _ => none
  | .execute _ => none

namespace Change

def target : Change → String
  | .create t => t.name
  | .insert name _ => name

/-- A new table needs a name that is free, and a new row a table that accepts it. -/
def Allowed (db : Database) : Change → Prop
  | .create t => db.tables.lookup t.name = none
  | .insert name values => ∃ st, db.tables.lookup name = some st ∧ st.Accepts values

inductive Makes (db : Database) : Change → Database → Prop
  | create {t} : db.tables.lookup t.name = none →
      Makes db (.create t) (db.add t.name (.ofTable t))
  | insert {name values st} : db.tables.lookup name = some st → st.Accepts values →
      Makes db (.insert name values) (db.update name (·.push values))

/-- What is done about a change: it is made where it is allowed. Elsewhere that fails, and leaves
the database as it is. -/
inductive Decided {ε α : Type} (db : Database) (ch : Change) : Except ε α × Database → Prop
  | made {a db'} : ch.Makes db db' → Decided db ch (.ok a, db')
  | refused {e} : ¬ ch.Allowed db → Decided db ch (.error e, db)

def inserted (name : String) (changes : List Change) : List (List Value) :=
  changes.filterMap fun
    | .insert name' values => if name' = name then some values else none
    | .create _ => none

variable {ε ε' α β : Type} {db db' : Database} {ch : Change}

theorem Makes.allowed (h : ch.Makes db db') : ch.Allowed db := by
  cases h with
  | create hnone => exact hnone
  | insert hlookup haccepts => exact ⟨_, hlookup, haccepts⟩

theorem Decided.map {x : Except ε α} (h : ch.Decided db (x, db')) (f : α → β) :
    ch.Decided db (x.map f, db') := by
  cases h with
  | made h => exact .made h
  | refused h => exact .refused h

theorem Decided.mapError {x : Except ε α} (h : ch.Decided db (x, db')) (f : ε → ε') :
    ch.Decided db (x.mapError f, db') := by
  cases h with
  | made h => exact .made h
  | refused h => exact .refused h

theorem decided_create (t : Table) (s : State) :
    Decided s.database (.create t)
      (((Database.create t).run.run s).1, ((Database.create t).run.run s).2.database) := by
  rcases create_cases t s with ⟨hnone, hrun⟩ | ⟨hsome, e, hrun⟩
  · rw [hrun]
    exact .made (.create hnone)
  · rw [hrun]
    exact .refused hsome

theorem decided_insert (name : String) (values : List Value) (s : State) :
    Decided s.database (.insert name values)
      (((Database.insert name values).run.run s).1,
        ((Database.insert name values).run.run s).2.database) := by
  rcases insert_cases name values s with ⟨⟨st, hlookup, haccepts⟩, hrun⟩ | ⟨hnot, e, hrun⟩
  · rw [hrun]
    exact .made (.insert hlookup haccepts)
  · rw [hrun]
    exact .refused hnot

end Change

theorem call_eq (db : Database) (c : Call) : db.call c =
    ((c.action.run.run ⟨db, []⟩).1.mapError DatabaseError.report,
      (c.action.run.run ⟨db, []⟩).2.database) := rfl

theorem call_of_decided {db : Database} {c : Call} {ch : Change} {x : Action Unit}
    (hc : c.action = do x; return .done)
    (h : ch.Decided db ((x.run.run ⟨db, []⟩).1, (x.run.run ⟨db, []⟩).2.database)) :
    ch.Decided db (db.call c) := by
  rw [call_eq, hc, run_bind_pure]
  exact (h.map _).mapError _

theorem call_of_reads {α : Type} {db : Database} {c : Call} {x : Action α} {answer : α → Answer}
    {run : Database → Run DatabaseError α} (hc : c.action = do return answer (← x))
    (h : x.Reads run) :
    db.call c = (((run db).result.map answer).mapError DatabaseError.report, db) := by
  rw [call_eq, hc, run_bind_pure, h]

/-- A call that asks for no change makes none, and any other is decided as its change is. -/
theorem call_cases (db : Database) (c : Call) :
    c.change? = none ∧ (db.call c).2 = db ∨
      ∃ ch, c.change? = some ch ∧ ch.Decided db (db.call c) := by
  cases c with
  | create t => exact .inr ⟨_, rfl, call_of_decided rfl (Change.decided_create t ⟨db, []⟩)⟩
  | createFor type =>
    exact .inr ⟨_, rfl, call_of_decided rfl (Change.decided_create type.table ⟨db, []⟩)⟩
  | insert name values =>
    exact .inr ⟨_, rfl, call_of_decided rfl (Change.decided_insert name values ⟨db, []⟩)⟩
  | insertRecord t values =>
    refine .inr ⟨_, rfl, call_of_decided rfl ?_⟩
    rw [insertRecord, run_adapt]
    exact (Change.decided_insert t.name values ⟨db, []⟩).mapError _
  | rowCount name => exact .inl ⟨rfl, by rw [call_of_reads rfl (reads_rowCount name)]⟩
  | execute statement => exact .inl ⟨rfl, by rw [call_of_reads rfl (reads_query statement)]⟩

structure Call.Contained (db : Database) (c : Call) : Prop where
  succeeds : ∀ ch, c.change? = some ch → ((∃ a, (db.call c).1 = .ok a) ↔ ch.Allowed db)
  failed : ∀ e, (db.call c).1 = .error e → (db.call c).2 = db
  reading : c.change? = none → (db.call c).2 = db
  others : ∀ name, c.change?.map Change.target ≠ some name →
    (db.call c).2.table name = db.table name
  /-- A table stays, with the rows that it has, and more of them may follow. -/
  existing : ∀ name st, db.table name = .ok st → ∃ st' rows, (db.call c).2.table name = .ok st' ∧
    st'.columns = st.columns ∧ st'.rows = st.rows ++ rows

namespace Change

variable {db db' : Database} {ch : Change} {changes : List Change} {name : String}

theorem Makes.lookup_of_ne (h : ch.Makes db db') (hne : name ≠ ch.target) :
    db'.tables.lookup name = db.tables.lookup name := by
  cases h with
  | create hnone => exact lookup_cons_of_ne hne _ _
  | insert hlookup haccepts =>
    rw [target] at hne
    simp [lookup_update, hne]

theorem Makes.lookup_create {t : Table} (h : Makes db (.create t) db') :
    db.tables.lookup t.name = none ∧ db'.tables.lookup t.name = some (.ofTable t) := by
  cases h with
  | create hnone => exact ⟨hnone, by simp [add]⟩

theorem Makes.lookup_insert {values : List Value} (h : Makes db (.insert name values) db') :
    ∃ st, db.tables.lookup name = some st ∧ st.Accepts values ∧
      db'.tables.lookup name = some (st.push values) := by
  cases h with
  | insert hlookup haccepts => exact ⟨_, hlookup, haccepts, by simp [lookup_update, hlookup]⟩

theorem Makes.existing {st : StoredTable} (h : ch.Makes db db')
    (hst : db.tables.lookup name = some st) :
    ∃ st' rows, db'.tables.lookup name = some st' ∧ st'.columns = st.columns ∧
      st'.rows = st.rows ++ rows := by
  by_cases hne : name = ch.target
  · subst hne
    cases ch with
    | create t =>
      rw [target, h.lookup_create.1] at hst
      cases hst
    | insert name values =>
      obtain ⟨st₀, hst₀, _, hst'⟩ := h.lookup_insert
      cases hst.symm.trans hst₀
      exact ⟨_, [values], hst', rfl, st.rows_push values⟩
  · exact ⟨st, [], by rw [h.lookup_of_ne hne, hst], rfl, by simp⟩

end Change

theorem Call.Contained.ofUnchanged {db : Database} {c : Call} (hdb : (db.call c).2 = db)
    (h : ∀ ch, c.change? = some ch → ((∃ a, (db.call c).1 = .ok a) ↔ ch.Allowed db)) :
    c.Contained db where
  succeeds := h
  failed _ _ := hdb
  reading _ := hdb
  others _ _ := by rw [hdb]
  existing _ st hst := ⟨st, [], by rw [hdb, hst], rfl, by simp⟩

theorem call_contained (db : Database) (c : Call) : c.Contained db := by
  rcases call_cases db c with ⟨hnone, hdb⟩ | ⟨ch, hch, hcall⟩
  · exact .ofUnchanged hdb (by simp [hnone])
  · have hchange : ∀ ch', c.change? = some ch' → ch' = ch := by simp [hch, eq_comm]
    generalize houtcome : db.call c = outcome at hcall
    cases hcall with
    | refused hnot =>
      refine .ofUnchanged (by rw [houtcome]) fun ch' hch' => ?_
      simp [hchange ch' hch', houtcome, hnot]
    | made hmakes =>
      refine ⟨fun ch' hch' => ?_, by simp [houtcome], by simp [hch], ?_, ?_⟩
      · simp [hchange ch' hch', houtcome, hmakes.allowed]
      · intro name hne
        rw [houtcome]
        exact table_congr (hmakes.lookup_of_ne (by simpa [hch, eq_comm] using hne))
      · intro name st hst
        rw [houtcome]
        obtain ⟨st', rows, hst', hrest⟩ := hmakes.existing (table_eq_ok.1 hst)
        exact ⟨st', rows, table_eq_ok.2 hst', hrest⟩

-- ---------------------------------------------------------------------------
-- Runs
-- ---------------------------------------------------------------------------

structure Entry where
  call : Call
  outcome : Except Report Answer

def Entry.change? (e : Entry) : Option Change :=
  match e.outcome with
  | .ok _ => e.call.change?
  | .error _ => none

structure History where
  database : Database
  entries : List Entry

namespace History

def start : History :=
  ⟨.empty, []⟩

def call (h : History) (c : Call) : History :=
  ⟨(h.database.call c).2, h.entries ++ [⟨c, (h.database.call c).1⟩]⟩

def of (calls : List Call) : History :=
  calls.foldl call start

def changes (h : History) : List Change :=
  h.entries.filterMap Entry.change?

theorem call_cases (h : History) (c : Call) :
    (h.call c).database = h.database ∧ (h.call c).changes = h.changes ∨
      ∃ ch, ch.Makes h.database (h.call c).database ∧ (h.call c).changes = h.changes ++ [ch] := by
  rcases h.database.call_cases c with ⟨hnone, hdb⟩ | ⟨ch, hch, hcall⟩
  · refine .inl ⟨hdb, ?_⟩
    simp only [call, changes, List.filterMap_append, List.filterMap_cons, List.filterMap_nil,
      Entry.change?]
    cases (h.database.call c).1 <;> simp [hnone]
  · generalize houtcome : h.database.call c = outcome at hcall
    cases hcall with
    | refused hnot => exact .inl (by simp [call, changes, houtcome, Entry.change?])
    | made hmakes =>
      exact .inr ⟨ch, by simpa [call, changes, houtcome, Entry.change?, hch] using hmakes⟩

end History

namespace Change

variable {db db' : Database} {ch : Change} {changes : List Change} {name : String}

@[simp] theorem inserted_append (name : String) (changes changes' : List Change) :
    inserted name (changes ++ changes') = inserted name changes ++ inserted name changes' :=
  List.filterMap_append

@[simp] theorem inserted_insert (name name' : String) (values : List Value) :
    inserted name [.insert name' values] = if name' = name then [values] else [] := by
  by_cases h : name' = name <;> simp [inserted, h]

theorem inserted_of_ne (hne : name ≠ ch.target) : inserted name [ch] = [] := by
  cases ch with
  | create t => rfl
  | insert name' values =>
    rw [target] at hne
    simp [Ne.symm hne]

/-- The database is what the changes make of an empty one: each table that was created holds what
was inserted into it, and nothing was inserted elsewhere. -/
structure Traces (changes : List Change) (db : Database) : Prop where
  wellFormed : db.WellFormed
  stored : ∀ t, .create t ∈ changes → db.tables.lookup t.name =
    some ⟨(StoredTable.ofTable t).columns, (inserted t.name changes).reverse⟩
  absent : ∀ name, db.tables.lookup name = none → inserted name changes = []

theorem Traces.empty : Traces [] Database.empty :=
  ⟨⟨by simp [Database.empty], by simp [Database.empty]⟩, by simp, fun _ _ => rfl⟩

theorem Makes.wellFormed (h : ch.Makes db db') (hdb : db.WellFormed) : db'.WellFormed := by
  cases h with
  | @create t hnone =>
    refine ⟨List.nodup_cons.2 ⟨?_, hdb.names⟩, fun entry hentry => ?_⟩
    · intro hmem
      obtain ⟨⟨_, st⟩, hst, rfl⟩ := List.mem_map.1 hmem
      cases hnone.symm.trans (lookup_of_mem hdb.names hst)
    · rcases List.mem_cons.1 hentry with rfl | hentry
      · intro row hrow
        simp at hrow
      · exact hdb.rows entry hentry
  | @insert name values st hlookup haccepts =>
    have hnames : ((db.update name (·.push values)).tables.map (·.1)) = db.tables.map (·.1) := by
      rw [update, List.map_map]
      refine List.map_congr_left fun entry _ => ?_
      by_cases hname : entry.1 = name <;> simp [hname]
    refine ⟨hnames ▸ hdb.names, fun entry hentry => ?_⟩
    obtain ⟨⟨name', old⟩, hold, rfl⟩ := List.mem_map.1 hentry
    by_cases hname : name' = name
    · subst hname
      -- The table that accepts the row is the one that is pushed to.
      cases hlookup.symm.trans (lookup_of_mem hdb.names hold)
      simpa using (hdb.rows _ hold).push haccepts
    · simpa [hname] using hdb.rows _ hold

theorem Traces.stored_of_mem (h : Traces changes db) (hch : ch.Makes db db') {t : Table}
    (ht : .create t ∈ changes) : db'.tables.lookup t.name =
      some ⟨(StoredTable.ofTable t).columns, (inserted t.name (changes ++ [ch])).reverse⟩ := by
  have hstored := h.stored t ht
  by_cases hne : t.name = ch.target
  · cases ch with
    | create t' =>
      -- A name that is taken cannot be given to a new table.
      rw [hne, target, hch.lookup_create.1] at hstored
      cases hstored
    | insert name values =>
      obtain rfl : t.name = name := hne
      obtain ⟨st, hst, -, hst'⟩ := hch.lookup_insert
      cases hstored.symm.trans hst
      simp [hst', StoredTable.push]
  · rw [hch.lookup_of_ne hne, hstored, inserted_append, inserted_of_ne hne, List.append_nil]

theorem Traces.make (h : Traces changes db) (hch : ch.Makes db db') :
    Traces (changes ++ [ch]) db' := by
  refine ⟨hch.wellFormed h.wellFormed, ?_, ?_⟩
  · intro t ht
    rcases List.mem_append.1 ht with ht | ht
    · exact h.stored_of_mem hch ht
    · obtain rfl := List.mem_singleton.1 ht
      obtain ⟨hnone, hsome⟩ := hch.lookup_create
      rw [hsome, inserted_append, h.absent t.name hnone]
      rfl
  · intro name hnone
    by_cases hne : name = ch.target
    · subst hne
      cases ch with
      | create t => cases hnone.symm.trans hch.lookup_create.2
      | insert name values =>
        obtain ⟨st, -, -, hst'⟩ := hch.lookup_insert
        cases hnone.symm.trans hst'
    · rw [hch.lookup_of_ne hne] at hnone
      rw [inserted_append, inserted_of_ne hne, h.absent name hnone, List.append_nil]

end Change

namespace History

theorem traces_call {h : History} (ht : Change.Traces h.changes h.database) (c : Call) :
    Change.Traces (h.call c).changes (h.call c).database := by
  rcases h.call_cases c with ⟨hdb, hchanges⟩ | ⟨ch, hmakes, hchanges⟩
  · rwa [hdb, hchanges]
  · rw [hchanges]
    exact ht.make hmakes

theorem traces_of (calls : List Call) : Change.Traces (of calls).changes (of calls).database := by
  have hrun : ∀ h : History, Change.Traces h.changes h.database →
      Change.Traces (calls.foldl call h).changes (calls.foldl call h).database := by
    induction calls with
    | nil => exact fun h ht => ht
    | cons c calls ih => exact fun h ht => ih (h.call c) (traces_call ht c)
  exact hrun start .empty

end History

-- ---------------------------------------------------------------------------
-- Statements
-- ---------------------------------------------------------------------------

theorem executeBy_guarded {db : Database} (hdb : db.WellFormed)
    (beyond : ConditionError) (statement : Statement) :
    db.executeBy (StoredTable.guarded beyond) statement = db.execute statement := by
  rw [execute_eq_executeBy, executeBy, executeBy]
  refine Run.bind_congr fun _ _ => Run.bind_congr fun tokens _ => ?_
  obtain ⟨parsed, positionals⟩ := Select.parse tokens
  refine Run.bind_congr fun s _ => ?_
  split
  next => rfl
  next =>
    refine Run.bind_congr fun st hst => ?_
    rw [StoredTable.guarded_eq_select beyond (hdb.of_table hst)]

theorem length_of_execute {db : Database} (hdb : db.WellFormed)
    {statement : Statement} {rows : List Row} (h : (db.execute statement).result = .ok rows) :
    ∀ row ∈ rows, row.values.length = row.columns.length := by
  simp only [execute_eq_executeBy, executeBy, Run.result_bind, Run.result_note, Run.result_ofExcept,
    bind_eq_ok] at h
  obtain ⟨_, _, tokens, _, s, _, h⟩ := h
  split at h
  next => cases h
  next =>
    simp only [Run.result_bind, Run.result_note, Run.result_ofExcept, Run.result_pure, bind_eq_ok,
      mapError_eq_ok, Except.ok.injEq] at h
    obtain ⟨st, hst, rows, hselect, _, -, rfl⟩ := h
    exact StoredTable.length_of_select (hdb.of_table hst) hselect

theorem execute_all {db : Database} {st : StoredTable} {t : Table} (hst : db.table t.name = .ok st)
    (hcolumns : st.columns = (StoredTable.ofTable t).columns) (hwf : st.WellFormed)
    (hplain : Lexer.isPlain t.name = true) (parameters : List Parameter) :
    (db.execute ⟨"SELECT * FROM " ++ t.name, parameters⟩).result =
      .ok (st.rows.map (Row.mk t.columnNames)) := by
  have hreads : Lexer.Reads ("SELECT * FROM " ++ t.name).toList
      [.keyword .select, .symbol .star, .keyword .from_, .identifier t.name] [] := by
    simpa [Keyword.spelling, Symbol.spelling] using (Lexer.Reads.keyword .select rfl).append
      (Lexer.Reads.blank.append (Lexer.Reads.between (fun _ => Lexer.Reads.symbol .star)
        (fun _ => Lexer.Reads.keyword .from_) (Lexer.Reads.plain hplain rfl)))
  have hparse : Select.parse
      ([.keyword .select, .symbol .star, .keyword .from_, .identifier t.name] ++ [.eof]) =
      (.ok ⟨.all, t.name, none⟩, 0) := rfl
  rw [execute_of_parse hreads.scan hparse, if_neg (Nat.not_lt_zero _), hst, ok_bind,
    StoredTable.select_all hcolumns hwf, mapError_ok]

/-- However a new database is called, all rows fit their tables. A call that fails changes nothing,
and no call changes more than the table it names, where it adds a row and replaces none. A table
that was created has the rows that were inserted into it, in that order. No statement looks beyond
the end of a row or of the columns, and the rows it returns have a value for each column. -/
theorem rows_of_history (calls : List Call) :
    let h := History.of calls
    h.database.WellFormed ∧
    (∀ c : Call, c.Contained h.database) ∧
    (∀ t, .create t ∈ h.changes →
      (h.database.call (.rowCount t.name)).1 =
        .ok (.count (Change.inserted t.name h.changes).length) ∧
      (Lexer.isPlain t.name = true → ∀ parameters,
        (h.database.execute ⟨"SELECT * FROM " ++ t.name, parameters⟩).result =
          .ok ((Change.inserted t.name h.changes).map (Row.mk t.columnNames)))) ∧
    ∀ statement,
      (∀ beyond, h.database.executeBy (StoredTable.guarded beyond) statement =
        h.database.execute statement) ∧
      ∀ rows, (h.database.execute statement).result = .ok rows →
        ∀ row ∈ rows, row.values.length = row.columns.length := by
  intro h
  have htraces : Change.Traces h.changes h.database := History.traces_of calls
  refine ⟨htraces.wellFormed, call_contained h.database, fun t ht => ?_, fun statement => ?_⟩
  · have hst := table_eq_ok.2 (htraces.stored t ht)
    refine ⟨?_, fun hplain parameters => ?_⟩
    · rw [call_of_reads (c := .rowCount t.name) rfl (reads_rowCount t.name)]
      simp [hst, ok_bind, StoredTable.rows, Except.map, mapError_ok]
    · rw [execute_all hst rfl (htraces.wellFormed.of_table hst) hplain]
      simp [StoredTable.rows]
  · exact ⟨fun beyond => executeBy_guarded htraces.wellFormed beyond statement,
      fun rows hrows => length_of_execute htraces.wellFormed hrows⟩

theorem rows_of_history_refused :
    let h := History.of [.insert "TestType" [.int32 1, .boolean true, .null],
      .createFor Demo.testType, .create ⟨"Other", "TestType", []⟩,
      .insert "TestType" [.int32 1, .boolean true, .null], .insert "TestType" [.int32 2],
      .insertRecord Demo.testType.table [.int32 3, .int32 3, .string "3"],
      .insertRecord Demo.testType.table [.int32 4, .boolean false, .string "4"],
      .rowCount "Missing"]
    (h.database.call (.rowCount "TestType")).1 = .ok (.count 2) ∧
    (h.database.execute ⟨"SELECT * FROM TestType", []⟩).result =
      .ok [⟨["IntColumn", "BoolColumn", "StringColumn"], [.int32 1, .boolean true, .null]⟩,
        ⟨["IntColumn", "BoolColumn", "StringColumn"],
          [.int32 4, .boolean false, .string "4"]⟩] := by
  intro h
  have hchanges : h.changes = [.create Demo.testType.table,
      .insert "TestType" [.int32 1, .boolean true, .null],
      .insert "TestType" [.int32 4, .boolean false, .string "4"]] := rfl
  obtain ⟨-, -, hrows, -⟩ := rows_of_history _
  obtain ⟨hcount, hselect⟩ := hrows Demo.testType.table (by rw [hchanges]; exact List.mem_cons_self)
  rw [hchanges] at hcount hselect
  exact ⟨hcount, hselect (by decide +kernel) []⟩

end Database

end PredicateSql
