import PredicateSql.Report
import PredicateSql.Value

/-!
# Result rows

A row of a result: its columns by name and their values. A name that occurs twice means its
first column.
-/

namespace PredicateSql

structure Row where
  columns : List String
  values : List Value
deriving DecidableEq

inductive RowError
  | missing (column : String)
  | unreadable (column : String) (cause : ReadError)
deriving DecidableEq

def RowError.report : RowError → Report
  | .missing column => ⟨s!"Column '{column}' not present in row", []⟩
  | .unreadable column cause => ⟨cause.message, [s!"Failed to read column '{column}'"]⟩

namespace Row

def get? (row : Row) (column : String) : Option Value := do
  row.values[← row.columns.idxOf? column]?

def read (row : Row) (column : String) (as : ReadType) : Except RowError Value :=
  match row.get? column with
  | none => .error (.missing column)
  | some v => (v.read as).mapError (.unreadable column)

end Row

end PredicateSql
