import PredicateSql.Text.Quoted

/-!
# Tokens

The words of a statement, and how messages name them.
-/

namespace PredicateSql

inductive Keyword
  | select
  | from_
  | where_
  | and
  | or
  | not
  | is
  | null
  | true
  | false
deriving DecidableEq

namespace Keyword

def all : List Keyword :=
  [.select, .from_, .where_, .and, .or, .not, .is, .null, .true, .false]

def spelling : Keyword → String
  | .select => "SELECT"
  | .from_ => "FROM"
  | .where_ => "WHERE"
  | .and => "AND"
  | .or => "OR"
  | .not => "NOT"
  | .is => "IS"
  | .null => "NULL"
  | .true => "TRUE"
  | .false => "FALSE"

def name : Keyword → String
  | .select => "Select"
  | .from_ => "From"
  | .where_ => "Where"
  | .and => "And"
  | .or => "Or"
  | .not => "Not"
  | .is => "Is"
  | .null => "Null"
  | .true => "True"
  | .false => "False"

end Keyword

inductive Symbol
  | plus
  | minus
  | star
  | slash
  | percent
  | equal
  | notEqual
  | less
  | greater
  | lessEqual
  | greaterEqual
  | leftParen
  | rightParen
  | comma
  | semicolon
deriving DecidableEq

def Symbol.name : Symbol → String
  | .plus => "Plus"
  | .minus => "Minus"
  | .star => "Star"
  | .slash => "Slash"
  | .percent => "Percent"
  | .equal => "Equal"
  | .notEqual => "NotEqual"
  | .less => "Less"
  | .greater => "Greater"
  | .lessEqual => "LessEqual"
  | .greaterEqual => "GreaterEqual"
  | .leftParen => "LeftParen"
  | .rightParen => "RightParen"
  | .comma => "Comma"
  | .semicolon => "Semicolon"

/-- A placeholder as it is written: `?`, `$n` or `@name`. -/
inductive Marker
  | positional
  | numbered (n : Nat)
  | named (name : String)
deriving DecidableEq

def Marker.describe : Marker → String
  | .positional => "Positional"
  | .numbered n => s!"Numbered({n})"
  | .named name => s!"Named({Text.quote name})"

inductive Token
  | identifier (name : String)
  /-- A number by its digits; whether they fit is for the parser to see. -/
  | number (digits : String)
  | string (s : String)
  | placeholder (m : Marker)
  | keyword (k : Keyword)
  | symbol (s : Symbol)
  | eof
deriving DecidableEq

def Token.describe : Token → String
  | .identifier name => s!"Identifier({Text.quote name})"
  | .number digits => s!"Number({Text.quote digits})"
  | .string s => s!"String({Text.quote s})"
  | .placeholder m => m.describe
  | .keyword k => k.name
  | .symbol s => s.name
  | .eof => "Eof"

end PredicateSql
