import PredicateSql.Lowering
import PredicateSql.Row

/-!
# Sessions

Queries for records. A session compiles a predicate for the table of a record type, has the
statement executed and reads the records from the rows. The table is described when a type is
first used; a description that changes later does not matter any more.
-/

namespace PredicateSql

abbrev Record := List Value

structure RecordType where
  id : TypeId
  /-- The description the type gives now. -/
  table : Table
  /-- Makes a record of a row, in whatever way the type does it. -/
  read : Row → Except Report Record

def Row.readAll (row : Row) (columns : List (String × ReadType)) : Except Report Record :=
  (columns.mapM fun (column, as) => row.read column as).mapError RowError.report

def Table.selectClause (t : Table) : Fragment :=
  .sql ("SELECT " ++ ", ".intercalate t.columnNames ++ " FROM " ++ t.name) .statement

/-- The statement for a lowered predicate: no condition where every record meets it. -/
def Table.select (t : Table) : Lowered → Fragment
  | .folded true => t.selectClause
  | lowered => (t.selectClause.pushSql " WHERE ").append lowered.fragment

/-- A session's settings, and the executor of its statements, which keeps a state `σ`. -/
structure Session (σ : Type) where
  style : Style
  execute : Statement → σ → Run Report (List Row) × σ

namespace Session

structure State (σ : Type) where
  registry : Registry
  store : σ
  log : List Event

def State.start {σ : Type} (store : σ) : State σ :=
  ⟨.empty, store, []⟩

/-- An operation of a session. Its effects on the state stay where it fails. -/
abbrev Action (σ : Type) := ExceptT QueryError (StateM (State σ))

variable {σ α : Type}

def note (e : Event) : Action σ Unit :=
  modify fun st => { st with log := st.log ++ [e] }

def ofRun (run : Run QueryError α) : Action σ α := do
  modify fun st => { st with log := st.log ++ run.events }
  run.result

def tableFor (type : RecordType) : Action σ Table := do
  match (← get).registry.table? type.id with
  | some t => return t
  | none =>
    modify fun st => { st with registry := st.registry.register type.id type.table }
    note (.registered type.table)
    return type.table

def prepare (s : Session σ) (type : RecordType) (p : Predicate) : Action σ Statement := do
  let t ← tableFor type
  let lowered ← ofRun (Scope.lower ⟨t, t.record, p.parameter⟩ p.body)
  return (t.select lowered).render s.style

def send (s : Session σ) (statement : Statement) : Action σ (List Row) := do
  let st ← get
  let (run, store) := s.execute statement st.store
  set { st with store := store }
  ofRun (run.mapError .execution)

def materialize (type : RecordType) (rows : List Row) : Action σ (List Record) := do
  let t ← tableFor type
  let records ← ofRun (.ofExcept ((rows.mapM type.read).mapError (.materialize t.record)))
  note (.materialized records.length)
  return records

def select (s : Session σ) (type : RecordType) (p : Predicate) : Action σ (List Record) := do
  let statement ← s.prepare type p
  note (.prepared p statement)
  let rows ← s.send statement
  materialize type rows

def selectAll (s : Session σ) (type : RecordType) : Action σ (List Record) :=
  s.select type .all

/-- The one record of a predicate, or none; more than one is a failure. -/
def single (s : Session σ) (type : RecordType) (p : Predicate) : Action σ (Option Record) := do
  match ← s.select type p with
  | [] => return none
  | [record] => return some record
  | records =>
    let t ← tableFor type
    throw (.multipleRows t.record records.length)

end Session

end PredicateSql
