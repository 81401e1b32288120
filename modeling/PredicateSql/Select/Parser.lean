import PredicateSql.Select
import PredicateSql.Text.Integer

/-!
# Parsing SELECT statements

One level for each strength of binding, from `OR` down to single operands. A level reads from the
front of the tokens and leaves strictly less, which bounds the nesting of parentheses. A list that
has run out reads as `eof`. Beside the tokens goes the number of `?` read so far, which each `?`
takes for its index.
-/

namespace PredicateSql

inductive ParseError
  | expected (wanted found : Token)
  | expectedIdentifier (found : Token)
  | unexpected (found : Token)
  | invalidInteger (digits : String)
  | afterStatement (found : Token)
deriving DecidableEq

def ParseError.message : ParseError → String
  | .expected wanted found => s!"Expected {wanted.describe}, found {found.describe}"
  | .expectedIdentifier found => s!"Expected identifier, found {found.describe}"
  | .unexpected found => s!"Unexpected token: {found.describe}"
  | .invalidInteger digits => s!"Invalid integer literal: {digits}"
  | .afterStatement found => s!"Unexpected token after statement: {found.describe}"

namespace Parser

/-- Why reading stopped, and how many `?` had been read by then. -/
structure Failure where
  error : ParseError
  positionals : Nat
deriving DecidableEq

/-- What is left of `ts` once something has been read from its front. -/
abbrev Rest (ts : List Token) : Type :=
  { rest : List Token // rest.length < ts.length }

abbrev Reading (α : Type) (ts : List Token) : Type :=
  Except Failure (α × Nat × Rest ts)

abbrev Tree : Type :=
  Condition Reference

/-- A reader of conditions behind `k` of `?`, for token lists no longer than `n`. -/
abbrev Level (n : Nat) : Type :=
  (k : Nat) → (ts : List Token) → ts.length ≤ n → Reading Tree ts

abbrev Inner (n : Nat) : Type :=
  (k : Nat) → (ts : List Token) → ts.length < n → Reading Tree ts

def current (ts : List Token) : Token :=
  ts.headD .eof

def expect (wanted : Token) (k : Nat) : (ts : List Token) → Reading Unit ts
  | [] => .error ⟨.expected wanted .eof, k⟩
  | t :: ts =>
    if t = wanted then .ok ((), k, ⟨ts, Nat.lt_succ_self _⟩)
    else .error ⟨.expected wanted t, k⟩

def identifier (k : Nat) : (ts : List Token) → Reading String ts
  | .identifier name :: ts => .ok (name, k, ⟨ts, Nat.lt_succ_self _⟩)
  | ts => .error ⟨.expectedIdentifier (current ts), k⟩

/-- The operand that a single token is, and the count with it. -/
def atom (k : Nat) : Token → Except ParseError (Tree × Nat)
  | .number digits =>
    match Text.int32? digits.toList with
    | some n => .ok (.literal (.int32 n), k)
    | none => .error (.invalidInteger digits)
  | .string s => .ok (.literal (.string s), k)
  | .keyword .true => .ok (.literal (.boolean true), k)
  | .keyword .false => .ok (.literal (.boolean false), k)
  | .keyword .null => .ok (.literal .null, k)
  | .identifier name => .ok (.column name, k)
  | .placeholder .positional => .ok (.placeholder (.positional k), k + 1)
  | .placeholder (.numbered n) => .ok (.placeholder (.numbered n), k)
  | .placeholder (.named name) => .ok (.placeholder (.named name), k)
  | t => .error (.unexpected t)

def sumOp? : Token → Option ArithOp
  | .symbol .plus => some .add
  | .symbol .minus => some .sub
  | _ => none

def productOp? : Token → Option ArithOp
  | .symbol .star => some .mul
  | .symbol .slash => some .div
  | .symbol .percent => some .mod
  | _ => none

def compareOp? : Token → Option CompareOp
  | .symbol .equal => some .eq
  | .symbol .notEqual => some .ne
  | .symbol .less => some .lt
  | .symbol .lessEqual => some .le
  | .symbol .greater => some .gt
  | .symbol .greaterEqual => some .ge
  | _ => none

def andOp? : Token → Option LogicOp
  | .keyword .and => some .and
  | _ => none

def orOp? : Token → Option LogicOp
  | .keyword .or => some .or
  | _ => none

section Levels

variable {n : Nat}

/-- The operators that follow `left`, each with its right operand; they group to the left. -/
def chainFrom {ω : Type} (op? : Token → Option ω) (node : ω → Tree → Tree → Tree) (item : Level n)
    (left : Tree) (k : Nat) (ts : List Token) (h : ts.length ≤ n) :
    Except Failure (Tree × Nat × { rest : List Token // rest.length ≤ ts.length }) :=
  match ts with
  | [] => .ok (left, k, ⟨[], Nat.le_refl _⟩)
  | t :: us =>
    match op? t with
    | none => .ok (left, k, ⟨t :: us, Nat.le_refl _⟩)
    | some op => do
      let (right, k, ⟨vs, hv⟩) ← item k us (Nat.le_of_succ_le h)
      let (tree, k, ⟨rest, hr⟩) ←
        chainFrom op? node item (node op left right) k vs
          (Nat.le_trans (Nat.le_of_lt hv) (Nat.le_of_succ_le h))
      return (tree, k, ⟨rest, Nat.le_succ_of_le (Nat.le_trans hr (Nat.le_of_lt hv))⟩)
termination_by ts.length
decreasing_by exact Nat.lt_succ_of_lt hv

def chain {ω : Type} (op? : Token → Option ω) (node : ω → Tree → Tree → Tree) (item : Level n) :
    Level n := fun k ts h => do
  let (left, k, ⟨us, hu⟩) ← item k ts h
  let (tree, k, ⟨rest, hr⟩) ← chainFrom op? node item left k us (Nat.le_trans (Nat.le_of_lt hu) h)
  return (tree, k, ⟨rest, Nat.lt_of_le_of_lt hr hu⟩)

def primary (inner : Inner n) : Level n
  | k, [], _ => .error ⟨.unexpected .eof, k⟩
  | k, .symbol .leftParen :: ts, h => do
    let (tree, k, ⟨us, hu⟩) ← inner k ts h
    let (_, k, ⟨rest, hr⟩) ← expect (.symbol .rightParen) k us
    return (tree, k, ⟨rest, Nat.lt_succ_of_lt (Nat.lt_trans hr hu)⟩)
  | k, t :: ts, _ =>
    match atom k t with
    | .ok (tree, k) => .ok (tree, k, ⟨ts, Nat.lt_succ_self _⟩)
    | .error e => .error ⟨e, k⟩

def unary (inner : Inner n) : Level n
  | k, .symbol .minus :: ts, h => do
    let (tree, k, ⟨rest, hr⟩) ← unary inner k ts (Nat.le_of_succ_le h)
    return (.negate tree, k, ⟨rest, Nat.lt_succ_of_lt hr⟩)
  | k, ts, h => primary inner k ts h

def product (inner : Inner n) : Level n :=
  chain productOp? .arith (unary inner)

def sum (inner : Inner n) : Level n :=
  chain sumOp? .arith (product inner)

/-- At most one comparison or test for `NULL`: comparisons do not chain. -/
def comparison (inner : Inner n) : Level n := fun k ts h => do
  let (left, k, ⟨us, hu⟩) ← sum inner k ts h
  match us, hu with
  | .keyword .is :: .keyword .not :: vs, hu =>
    let (_, k, ⟨rest, hr⟩) ← expect (.keyword .null) k vs
    return (.isNull true left, k,
      ⟨rest, Nat.lt_trans hr (Nat.lt_of_succ_lt (Nat.lt_of_succ_lt hu))⟩)
  | .keyword .is :: vs, hu =>
    let (_, k, ⟨rest, hr⟩) ← expect (.keyword .null) k vs
    return (.isNull false left, k, ⟨rest, Nat.lt_trans hr (Nat.lt_of_succ_lt hu)⟩)
  | [], hu => return (left, k, ⟨[], hu⟩)
  | t :: vs, hu =>
    match compareOp? t with
    | none => return (left, k, ⟨t :: vs, hu⟩)
    | some op =>
      let (right, k, ⟨rest, hr⟩) ←
        sum inner k vs (Nat.le_trans (Nat.le_of_lt (Nat.lt_of_succ_lt hu)) h)
      return (.compare op left right, k, ⟨rest, Nat.lt_trans hr (Nat.lt_of_succ_lt hu)⟩)

def negation (inner : Inner n) : Level n
  | k, .keyword .not :: ts, h => do
    let (tree, k, ⟨rest, hr⟩) ← negation inner k ts (Nat.le_of_succ_le h)
    return (.not tree, k, ⟨rest, Nat.lt_succ_of_lt hr⟩)
  | k, ts, h => comparison inner k ts h

def conjunction (inner : Inner n) : Level n :=
  chain andOp? .logic (negation inner)

def disjunction (inner : Inner n) : Level n :=
  chain orOp? .logic (conjunction inner)

end Levels

def condition (k : Nat) (ts : List Token) : Reading Tree ts :=
  disjunction (fun k us _ => condition k us) k ts (Nat.le_refl _)
termination_by ts.length

def names (k : Nat) (ts : List Token) : Reading (List String) ts := do
  let (name, k, ⟨us, hu⟩) ← identifier k ts
  match us, hu with
  | .symbol .comma :: vs, hu =>
    let (more, k, ⟨rest, hr⟩) ← names k vs
    return (name :: more, k, ⟨rest, Nat.lt_trans hr (Nat.lt_of_succ_lt hu)⟩)
  | us, hu => return ([name], k, ⟨us, hu⟩)
termination_by ts.length
decreasing_by exact Nat.lt_of_succ_lt hu

def projection (k : Nat) : (ts : List Token) → Reading Projection ts
  | .symbol .star :: ts => .ok (.all, k, ⟨ts, Nat.lt_succ_self _⟩)
  | ts => do
    let (columns, k, rest) ← names k ts
    return (.columns columns, k, rest)

def filter? (k : Nat) : (ts : List Token) →
    Except Failure (Option Tree × Nat × { rest : List Token // rest.length ≤ ts.length })
  | .keyword .where_ :: ts => do
    let (tree, k, ⟨rest, hr⟩) ← condition k ts
    return (some tree, k, ⟨rest, Nat.le_succ_of_le (Nat.le_of_lt hr)⟩)
  | ts => .ok (none, k, ⟨ts, Nat.le_refl _⟩)

/-- One semicolon may end a statement. -/
def skipSemicolon : (ts : List Token) → { rest : List Token // rest.length ≤ ts.length }
  | .symbol .semicolon :: ts => ⟨ts, Nat.le_succ _⟩
  | ts => ⟨ts, Nat.le_refl _⟩

def statement (k : Nat) (ts : List Token) : Reading (Select Reference) ts := do
  let (_, k, ⟨ts₁, h₁⟩) ← expect (.keyword .select) k ts
  let (projection, k, ⟨ts₂, h₂⟩) ← projection k ts₁
  let (_, k, ⟨ts₃, h₃⟩) ← expect (.keyword .from_) k ts₂
  let (table, k, ⟨ts₄, h₄⟩) ← identifier k ts₃
  let (filter, k, ⟨ts₅, h₅⟩) ← filter? k ts₄
  let ⟨rest, h₆⟩ := skipSemicolon ts₅
  if current rest = .eof then
    return (⟨projection, table, filter⟩, k, ⟨rest, by omega⟩)
  else
    throw ⟨.afterStatement (current rest), k⟩

end Parser

/-- Parses a statement. The number is that of the `?` read, up to the failure if there is one. -/
def Select.parse (ts : List Token) : Except ParseError (Select Reference) × Nat :=
  match Parser.statement 0 ts with
  | .ok (s, k, _) => (.ok s, k)
  | .error f => (.error f.error, f.positionals)

end PredicateSql
