import PredicateSql.Value

/-!
# Parameterised SQL

A fragment is SQL text with slots, and the values bound to the slots in order. Values never
enter the text. How a slot is spelled is decided when the fragment is rendered.
-/

namespace PredicateSql

inductive Style
  | question
  | numbered
  | named
deriving DecidableEq

/-- The spelling of the slot at `index`, counted from zero. -/
def Style.spell : Style → Nat → String
  | .question, _ => "?"
  | .numbered, index => "$" ++ toString (index + 1)
  | .named, index => "@p" ++ toString index

structure Parameter where
  placeholder : String
  value : Value
deriving DecidableEq

structure Statement where
  text : String
  parameters : List Parameter
deriving DecidableEq

inductive Piece
  | text (sql : String)
  | slot
deriving DecidableEq

namespace Fragment

/-- The outermost construct of a fragment, which decides where it needs parentheses. -/
inductive Kind
  | operand
  | parameter
  | arithmetic
  | comparison
  | negation
  | conjunction
  | disjunction
  | statement
deriving DecidableEq

end Fragment

/-- The slots among the pieces and the values are in the same order. -/
structure Fragment where
  pieces : List Piece
  values : List Value
  kind : Fragment.Kind
deriving DecidableEq

namespace Fragment

def sql (text : String) (kind : Kind) : Fragment :=
  ⟨[.text text], [], kind⟩

def parameter (value : Value) : Fragment :=
  ⟨[.slot], [value], .parameter⟩

def withKind (f : Fragment) (kind : Kind) : Fragment :=
  { f with kind := kind }

/-- Joins pieces end to end, and text that meets text into one piece. -/
def join : List Piece → List Piece → List Piece
  | [], qs => qs
  | [.text a], .text b :: qs => .text (a ++ b) :: qs
  | p :: ps, qs => p :: join ps qs

def pushSql (f : Fragment) (text : String) : Fragment :=
  { f with pieces := join f.pieces [.text text] }

def pushParameter (f : Fragment) (value : Value) : Fragment :=
  { f with pieces := join f.pieces [.slot], values := f.values ++ [value] }

def append (f g : Fragment) : Fragment :=
  { f with pieces := join f.pieces g.pieces, values := f.values ++ g.values }

def appendWrapped (f g : Fragment) : Fragment :=
  ((f.pushSql "(").append g).pushSql ")"

def slotCount (f : Fragment) : Nat :=
  f.pieces.count .slot

/-- Renders pieces whose first slot has the given index. A slot beyond the values binds `NULL`. -/
def renderPieces (style : Style) : Nat → List Piece → List Value → Statement
  | _, [], _ => ⟨"", []⟩
  | index, .text sql :: rest, values =>
    let s := renderPieces style index rest values
    { s with text := sql ++ s.text }
  | index, .slot :: rest, values =>
    let placeholder := style.spell index
    let s := renderPieces style (index + 1) rest values.tail
    ⟨placeholder ++ s.text, ⟨placeholder, values.headD .null⟩ :: s.parameters⟩

def render (f : Fragment) (style : Style) : Statement :=
  renderPieces style 0 f.pieces f.values

def text (f : Fragment) : String :=
  (f.render .question).text

end Fragment

end PredicateSql
