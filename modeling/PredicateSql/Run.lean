import PredicateSql.Catalog
import PredicateSql.Expr
import PredicateSql.Fragment

/-!
# Runs and what they note

An operation may fail, and on its way it notes events for the log. The events noted before a
failure are kept.
-/

namespace PredicateSql

inductive Level
  | trace
  | debug
  | info
deriving DecidableEq

def Level.name : Level → String
  | .trace => "TRACE"
  | .debug => "DEBUG"
  | .info => "INFO"

inductive Event
  /-- A closed predicate was evaluated instead of compiled. -/
  | folded (predicate : Expr) (value : Bool)
  /-- The left operand decided, and the right one was not looked at. -/
  | shortCircuited (op : LogicOp) (value : Bool)
  | identityDropped (op : LogicOp)
  /-- The right operand decided. -/
  | absorbed (op : LogicOp) (value : Bool)
  | registered (table : Table)
  | tableCreated (name : String)
  | executing (statement : Statement)
  | returned (count : Nat) (table : String)
  | prepared (predicate : Predicate) (statement : Statement)
  | materialized (count : Nat)
  | firstRow (values : List Value)
deriving DecidableEq

namespace Event

def level : Event → Level
  | .folded .. | .shortCircuited .. | .identityDropped .. | .absorbed .. => .trace
  | .firstRow .. => .info
  | _ => .debug

def message : Event → String
  | .folded predicate value =>
    s!"Folded closed predicate {predicate.render} to {Value.render (.boolean value)}"
  | .shortCircuited op value =>
    s!"{op.sql} short-circuited by {Value.render (.boolean value)} branch"
  | .identityDropped op => s!"{op.sql} identity branch dropped"
  | .absorbed op value => s!"{op.sql} absorbed by {Value.render (.boolean value)} branch"
  | .registered table =>
    s!"Registered record {table.record} as table {table.name} ({table.columns.length} columns)"
  | .tableCreated name => s!"Created table {name}"
  | .executing statement =>
    s!"Executing: {statement.text} ({statement.parameters.length} parameters)"
  | .returned count table => s!"Returned {count} rows from {table}"
  | .prepared predicate statement => s!"{predicate.render} => {statement.text}"
  | .materialized count => s!"Materialized {count} rows"
  | .firstRow values => "first row: " ++ " ".intercalate (values.map Value.render)

def line (e : Event) : String :=
  e.level.name ++ " " ++ e.message

end Event

structure Run (ε α : Type) where
  result : Except ε α
  events : List Event

namespace Run

variable {ε ε' α β : Type}

def ok (a : α) : Run ε α :=
  ⟨.ok a, []⟩

def error (e : ε) : Run ε α :=
  ⟨.error e, []⟩

def ofExcept (x : Except ε α) : Run ε α :=
  ⟨x, []⟩

def note (e : Event) : Run ε Unit :=
  ⟨.ok (), [e]⟩

def mapError (f : ε → ε') (x : Run ε α) : Run ε' α :=
  ⟨x.result.mapError f, x.events⟩

def bind (x : Run ε α) (f : α → Run ε β) : Run ε β :=
  match x.result with
  | .ok a =>
    let rest := f a
    ⟨rest.result, x.events ++ rest.events⟩
  | .error e => ⟨.error e, x.events⟩

instance : Monad (Run ε) where
  pure := ok
  bind := bind

@[simp] theorem result_pure (a : α) : (pure a : Run ε α).result = .ok a := rfl

@[simp] theorem result_error (e : ε) : (error e : Run ε α).result = .error e := rfl

@[simp] theorem result_ofExcept (x : Except ε α) : (ofExcept x).result = x := rfl

@[simp] theorem result_note (e : Event) : (note e : Run ε Unit).result = .ok () := rfl

@[simp] theorem result_mapError (f : ε → ε') (x : Run ε α) :
    (x.mapError f).result = x.result.mapError f := rfl

@[simp] theorem result_bind (x : Run ε α) (f : α → Run ε β) :
    (x >>= f).result = x.result >>= fun a => (f a).result := by
  show (bind x f).result = _
  unfold bind
  cases x.result <;> rfl

theorem bind_of_ok {x : Run ε α} {a : α} (h : x.result = .ok a) (f : α → Run ε β) :
    x >>= f = ⟨(f a).result, x.events ++ (f a).events⟩ := by
  show bind x f = _
  rw [bind, h]

theorem bind_of_error {x : Run ε α} {e : ε} (h : x.result = .error e) (f : α → Run ε β) :
    x >>= f = ⟨.error e, x.events⟩ := by
  show bind x f = _
  rw [bind, h]

theorem bind_congr {x : Run ε α} {f g : α → Run ε β} (h : ∀ a, x.result = .ok a → f a = g a) :
    x >>= f = x >>= g := by
  cases hx : x.result with
  | ok a => rw [bind_of_ok hx, bind_of_ok hx, h a hx]
  | error e => rw [bind_of_error hx, bind_of_error hx]

end Run

end PredicateSql
