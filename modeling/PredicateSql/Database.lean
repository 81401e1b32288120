import PredicateSql.Catalog
import PredicateSql.Condition.Eval
import PredicateSql.Report
import PredicateSql.Row
import PredicateSql.Run
import PredicateSql.Select.Parser
import PredicateSql.Token.Lexer

/-!
# The database in memory

Tables of typed rows, and the statements that a query is run by. An operation works on the database
in place and notes events as it goes; where it fails, the database and the log stay as they are by
then. A row is checked before it is added.
-/

namespace PredicateSql

inductive DatabaseError
  | tableExists (table : String)
  | tableNotFound (table : String)
  | wrongWidth (table : String) (columns values : Nat)
  | invalidValue (value : Value) (column : String) (type : DataType)
  | insertion (record : String) (cause : DatabaseError)
  | lexing (cause : LexError)
  | parsing (sql : String) (cause : ParseError)
  | tooFewParameters (placeholders parameters : Nat)
  | condition (cause : ConditionError)
deriving DecidableEq

namespace DatabaseError

def report : DatabaseError → Report
  | .tableExists table => ⟨s!"Table '{table}' already exists", []⟩
  | .tableNotFound table => ⟨s!"Table '{table}' not found", []⟩
  | .wrongWidth table columns values =>
    ⟨s!"Table '{table}' has {columns} columns but {values} values were supplied", []⟩
  | .invalidValue value column type =>
    ⟨s!"Value {value.render} is not valid for column {column} of type {type.sqlName}", []⟩
  | .insertion record cause => cause.report.wrap s!"Failed to insert {record} record"
  | .lexing cause => ⟨cause.message, []⟩
  | .parsing sql cause => ⟨cause.message, [s!"Failed to parse '{sql}'"]⟩
  | .tooFewParameters placeholders parameters =>
    ⟨s!"Statement has {placeholders} placeholders but {parameters} parameters were bound", []⟩
  | .condition cause => ⟨cause.message, []⟩

def message (e : DatabaseError) : String :=
  e.report.text

end DatabaseError

structure StoredTable where
  columns : List (String × DataType)
  /-- The rows, the newest first, so that adding one does not walk through the others. -/
  newestFirst : List (List Value)
deriving DecidableEq

namespace StoredTable

def ofTable (t : Table) : StoredTable :=
  ⟨t.columns.map fun c => (c.name, c.type), []⟩

/-- The rows in the order of insertion. -/
def rows (t : StoredTable) : List (List Value) :=
  t.newestFirst.reverse

@[simp] theorem rows_ofTable (t : Table) : (ofTable t).rows = [] := rfl

def columnIndex (t : StoredTable) (name : String) : Except ConditionError Nat :=
  match t.columns.findIdx? (·.1 == name) with
  | some index => .ok index
  | none => .error (.columnNotFound name)

def push (t : StoredTable) (values : List Value) : StoredTable :=
  { t with newestFirst := values :: t.newestFirst }

@[simp] theorem rows_push (t : StoredTable) (values : List Value) :
    (t.push values).rows = t.rows ++ [values] :=
  List.reverse_cons

def env (t : StoredTable) (parameters : List Parameter) (row : List Value) : Env Reference where
  column name := do
    match row[← t.columnIndex name]? with
    | some v => return v
    | none => throw (.columnNotFound name)
  bound := Reference.bind parameters

def project (t : StoredTable) : Projection → Except ConditionError (List Nat)
  | .all => .ok (List.range t.columns.length)
  | .columns names => names.mapM t.columnIndex

def select (t : StoredTable) (s : Select Reference) (parameters : List Parameter) :
    Except ConditionError (List Row) := do
  let indices ← t.project s.projection
  let columns := indices.filterMap fun i => t.columns[i]?.map (·.1)
  let rows ← match s.filter with
    | none => pure t.rows
    | some c => t.rows.filterM fun row => c.selects (t.env parameters row)
  return rows.map fun row => ⟨columns, indices.filterMap (row[·]?)⟩

end StoredTable

structure Database where
  tables : List (String × StoredTable)
deriving DecidableEq

namespace Database

def empty : Database :=
  ⟨[]⟩

def table (db : Database) (name : String) : Except DatabaseError StoredTable :=
  match db.tables.lookup name with
  | some t => .ok t
  | none => .error (.tableNotFound name)

def add (db : Database) (name : String) (t : StoredTable) : Database :=
  ⟨(name, t) :: db.tables⟩

def update (db : Database) (name : String) (f : StoredTable → StoredTable) : Database :=
  ⟨db.tables.map fun entry => if entry.1 = name then (name, f entry.2) else entry⟩

structure State where
  database : Database
  log : List Event

/-- An operation on a database. What it has done stays where it fails. -/
abbrev Action := ExceptT DatabaseError (StateM State)

def Action.on {α : Type} (x : Action α) (db : Database) : Run DatabaseError α × Database :=
  let (result, st) := x.run.run ⟨db, []⟩
  (⟨result, st.log⟩, st.database)

def note (e : Event) : Action Unit :=
  modify fun st => { st with log := st.log ++ [e] }

def change (f : Database → Database) : Action Unit :=
  modify fun st => { st with database := f st.database }

def find (name : String) : Action StoredTable := do
  (← get).database.table name

def create (t : Table) : Action Unit := do
  if ((← get).database.tables.lookup t.name).isSome then
    throw (.tableExists t.name)
  change (·.add t.name (.ofTable t))
  note (.tableCreated t.name)

def check : (String × DataType) × Value → Action Unit
  | ((column, type), value) =>
    if value.fits type then return () else throw (.invalidValue value column type)

def insert (name : String) (values : List Value) : Action Unit := do
  let t ← find name
  if values.length ≠ t.columns.length then
    throw (.wrongWidth name t.columns.length values.length)
  (t.columns.zip values).forM check
  change (·.update name (·.push values))

def insertRecord (t : Table) (values : List Value) : Action Unit :=
  (insert t.name values).adapt (.insertion t.record)

def rowCount (name : String) : Action Nat := do
  return (← find name).rows.length

def query (statement : Statement) : Action (List Row) := do
  note (.executing statement)
  let tokens ← (Token.scan statement.text).mapError DatabaseError.lexing
  let (parsed, positionals) := Select.parse tokens
  let s ← parsed.mapError (DatabaseError.parsing statement.text)
  if statement.parameters.length < positionals then
    throw (.tooFewParameters positionals statement.parameters.length)
  let t ← find s.table
  let rows ← (t.select s statement.parameters).mapError DatabaseError.condition
  note (.returned rows.length s.table)
  return rows

def execute (db : Database) (statement : Statement) : Run DatabaseError (List Row) :=
  ((query statement).on db).1

/-- The database as one that runs statements for others. -/
def executor (statement : Statement) (db : Database) : Run Report (List Row) × Database :=
  let (run, db') := (query statement).on db
  (run.mapError DatabaseError.report, db')

end Database

end PredicateSql
