import PredicateSql.Value

/-!
# Record types and their tables

Which table and columns hold the records of a type, and the registry that keeps the
description a type had when it was first used.
-/

namespace PredicateSql

structure Column where
  field : String
  name : String
  type : DataType
deriving DecidableEq

structure Table where
  record : String
  name : String
  columns : List Column
deriving DecidableEq

namespace Table

def columnNames (t : Table) : List String :=
  t.columns.map (·.name)

/-- The column of a record's field: the first one listed, and only of the table's own record. -/
def column? (t : Table) (record field : String) : Option Column :=
  if record = t.record then t.columns.find? (·.field == field) else none

end Table

/-- The identity of a record type, whatever its description. -/
abbrev TypeId := Nat

structure Registry where
  entries : List (TypeId × Table)
deriving DecidableEq

namespace Registry

def empty : Registry :=
  ⟨[]⟩

def size (r : Registry) : Nat :=
  r.entries.length

def table? (r : Registry) (id : TypeId) : Option Table :=
  r.entries.lookup id

/-- Enters a description for a type that has none. -/
def register (r : Registry) (id : TypeId) (t : Table) : Registry :=
  ⟨(id, t) :: r.entries⟩

end Registry

end PredicateSql
