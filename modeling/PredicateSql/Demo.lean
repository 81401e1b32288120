import PredicateSql.Database
import PredicateSql.Session

/-!
# The demo

A table of numbered rows and seven predicates on it. For each the demo prints the statement it
compiles to, the values bound and the number of records found, and logs the first of them. What it
has printed and logged stays where a scenario fails.
-/

namespace PredicateSql

namespace Demo

def testType : RecordType where
  id := 0
  table := ⟨"TestType", "TestType",
    [⟨"IntColumn", "IntColumn", .int32⟩, ⟨"BoolColumn", "BoolColumn", .boolean⟩,
      ⟨"StringColumn", "StringColumn", .varchar⟩]⟩
  read row := row.readAll
    [("IntColumn", ⟨.int32, false⟩), ("BoolColumn", ⟨.boolean, false⟩),
      ("StringColumn", ⟨.varchar, false⟩)]

structure Entry where
  number : Int32
  flag : Bool
  text : String
deriving DecidableEq

def Entry.record (e : Entry) : Record :=
  [.int32 e.number, .boolean e.flag, .string e.text]

/-- The only entry that is flagged. Its text is that of the next number. -/
def special : Entry :=
  ⟨3, true, "4"⟩

def filler (n : Nat) : Entry :=
  ⟨Int32.ofNat n, false, toString n⟩

/-- The entries by number: fillers from zero to `highest`, and the special one in the place of
its own number, whether the fillers reach it or not. -/
def entries (highest : Int32) : List Entry :=
  let numbers := (List.range (highest.toInt + 1).toNat).filter (· ≠ 3)
  (numbers.map filler ++ [special]).mergeSort fun a b => a.number ≤ b.number

def load (highest : Int32) : Database.Action Unit := do
  Database.create testType.table
  (entries highest).forM fun e => Database.insertRecord testType.table e.record

structure Scenario where
  name : String
  predicate : Predicate
deriving DecidableEq

def int (n : Int32) : Expr :=
  .constant (.int32 n)

/-- A variable of the surrounding program. -/
def captured (name : String) (value : Value) : Expr :=
  .capture ⟨name, .scalar value⟩

def scenarios : List Scenario :=
  let a := captured "a" (.int32 10)
  let b := captured "b" (.int32 5)
  let model : Capture := ⟨"model", .object [("StringValue", .string "4")]⟩
  [ ⟨"range", .build fun q =>
      .logic .and (.compare .gt (q "IntColumn") (int 2))
        (.compare .lt (q "IntColumn") (int 4))⟩,
    ⟨"column or impossible column test", .build fun q =>
      .logic .or (.compare .eq (q "IntColumn") (int 3))
        (.compare .lt (q "IntColumn") (int 0))⟩,
    ⟨"closed branch folds to true", .build fun q =>
      .logic .or (.compare .eq (q "IntColumn") (int 3)) (.compare .gt a b)⟩,
    ⟨"captured object member", .build fun q =>
      .logic .and (q "BoolColumn")
        (.compare .eq (q "StringColumn") (.member (.capture model) "StringValue"))⟩,
    ⟨"closed comparison operand", .build fun q =>
      .compare .eq (q "BoolColumn")
        (.logic .and (.compare .ge a b) (.compare .gt a (int 0)))⟩,
    ⟨"negated column or true capture", .build fun q =>
      .logic .or (.not (q "BoolColumn")) (captured "a" (.boolean true))⟩,
    ⟨"negated column or false capture", .build fun q =>
      .logic .or (.not (q "BoolColumn")) (captured "a" (.boolean false))⟩ ]

-- ---------------------------------------------------------------------------
-- Runs
-- ---------------------------------------------------------------------------

structure State where
  session : Session.State Database
  output : List String

def State.start : State :=
  ⟨.start .empty, []⟩

abbrev Action := ExceptT Report (StateM State)

def print (line : String) : Action Unit :=
  modify fun st => { st with output := st.output ++ [line] }

def note (e : Event) : Action Unit :=
  modify fun st => { st with session := { st.session with log := st.session.log ++ [e] } }

def onDatabase {α : Type} (x : Database.Action α) (report : DatabaseError → Report) : Action α := do
  let st ← get
  let (run, db) := x.on st.session.store
  set { st with session := { st.session with store := db, log := st.session.log ++ run.events } }
  run.result.mapError report

def onSession {α : Type} (x : Session.Action Database α) (report : QueryError → Report) :
    Action α := do
  let st ← get
  let (result, session) := x.run.run st.session
  set { st with session := session }
  result.mapError report

def Scenario.run (session : Session Database) (s : Scenario) : Action Unit := do
  let statement ← onSession (session.prepare testType s.predicate) QueryError.report
  let records ← onSession (session.select testType s.predicate) fun e =>
    e.report.wrap s!"Scenario '{s.name}' failed"
  print (s.name ++ ": " ++ s.predicate.render)
  print ("  sql:    " ++ statement.text)
  statement.parameters.forM fun p =>
    print ("  bind:   " ++ p.placeholder ++ " = " ++ p.value.render)
  print ("  rows:   " ++ toString records.length)
  records.head?.forM fun first => note (.firstRow first)

structure Options where
  /-- The highest number among the generated rows. -/
  rows : Int32 := 10
  style : Style := .question
  debug : Bool := false
deriving DecidableEq

/-- The level that the log shows, unless the surroundings say otherwise. -/
def Options.level (o : Options) : Level :=
  if o.debug then .debug else .info

def run (o : Options) : Action Unit := do
  onDatabase (load o.rows) fun e => e.report.wrap "Failed to load fixture rows"
  scenarios.forM (Scenario.run ⟨o.style, Database.executor⟩)

structure Surroundings (ω : Type) where
  /-- The options that the command line asks for; where it does not ask for a run, what the call
  comes to instead. -/
  options : List String → Except ω Options
  /-- Whether the log shows an event, by the level that the demo asks for. -/
  shows : Level → Event → Bool

structure Outcome where
  result : Except Report Unit
  output : List String
  log : List Event

def call {ω : Type} (world : Surroundings ω) (args : List String) : Except ω Outcome := do
  let o ← world.options args
  let (result, st) := (run o).run.run .start
  return ⟨result, st.output, st.session.log.filter (world.shows o.level)⟩

end Demo

end PredicateSql
