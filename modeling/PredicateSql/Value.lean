import PredicateSql.Text.Quoted

/-!
# Typed values

The values that flow through expressions, parameters and rows, the types columns have, and
reading a value as an expected type. `NULL` belongs to every type and has none of its own.
-/

namespace PredicateSql

inductive DataType
  | boolean
  | int32
  | varchar
deriving DecidableEq

def DataType.sqlName : DataType → String
  | .boolean => "BOOLEAN"
  | .int32 => "INTEGER"
  | .varchar => "VARCHAR"

/-- Integers are words of 32 bits: arithmetic on them wraps. -/
inductive Value
  | null
  | boolean (b : Bool)
  | int32 (n : Int32)
  | string (s : String)
deriving DecidableEq

namespace Value

def type? : Value → Option DataType
  | .null => none
  | .boolean _ => some .boolean
  | .int32 _ => some .int32
  | .string _ => some .varchar

def isNull : Value → Bool
  | .null => true
  | _ => false

def fits (t : DataType) (v : Value) : Bool :=
  match v.type? with
  | none => true
  | some own => own == t

def render : Value → String
  | .null => "NULL"
  | .boolean true => "true"
  | .boolean false => "false"
  | .int32 n => toString n.toInt
  | .string s => Text.quote s

@[simp] theorem fits_null (t : DataType) : fits t .null = true := rfl

end Value

/-- What a reader expects of a value: its type, and whether `NULL` will do. -/
structure ReadType where
  type : DataType
  nullable : Bool
deriving DecidableEq

structure ReadError where
  expected : DataType
  actual : Value
deriving DecidableEq

def ReadError.message (e : ReadError) : String :=
  s!"Expected {e.expected.sqlName}, got {e.actual.render}"

def Value.read (as : ReadType) (v : Value) : Except ReadError Value :=
  if v.type? = some as.type || (v.isNull && as.nullable) then .ok v else .error ⟨as.type, v⟩

end PredicateSql
