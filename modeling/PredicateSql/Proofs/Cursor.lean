import PredicateSql.Proofs.Attempt
import PredicateSql.Proofs.Grammar

/-!
# Parsing by position

Conditions read by a position that moves through a fixed list of tokens, beside the count of `?`.
Nothing in these definitions keeps the position from standing still, as it does at the end.
`moves_read`: a reading that succeeds has moved forward, and not past the end. `agrees_read`: a
limit linear in the tokens ahead is never reached, and the outcome is that of the parser.
-/

namespace PredicateSql.Cursor

open PredicateSql.Attempt
open PredicateSql.Parser (Strength Tree Failure atom productOp? sumOp? compareOp? andOp? orOp?)

/-- A reader at a position, behind a number of `?`; what it returns has their new number. -/
abbrev Reader (α : Type) : Type :=
  (k p : Nat) → Attempt Failure ((α × Nat) × Nat)

section Definitions

variable (ts : List Token)

/-- The token at a position, which is `eof` where there is none. -/
def current (p : Nat) : Token :=
  ts[p]?.getD .eof

def advance (p : Nat) : Nat :=
  if p < ts.length then p + 1 else p

def expect (wanted : Token) : Reader Unit := fun k p =>
  if current ts p = wanted then return (((), k), advance ts p)
  else throw (⟨.expected wanted (current ts p), k⟩, p)

def chainFrom {ω : Type} (op? : Token → Option ω) (node : ω → Tree → Tree → Tree)
    (item : Reader Tree) : (limit : Nat) → Tree → Reader Tree
  | 0, _, _, _ => .mk none
  | limit + 1, left, k, p =>
    match op? (current ts p) with
    | none => return ((left, k), p)
    | some op => do
      let ((right, k), q) ← item k (advance ts p)
      chainFrom op? node item limit (node op left right) k q

def chain {ω : Type} (op? : Token → Option ω) (node : ω → Tree → Tree → Tree) (item : Reader Tree)
    (limit : Nat) : Reader Tree := fun k p => do
  let ((left, k), q) ← item k p
  chainFrom ts op? node item limit left k q

/-- An operand, or a condition in parentheses. The position is behind the token before it is known
to be either. -/
def primary (inner : Reader Tree) : Reader Tree := fun k p =>
  if current ts p = .symbol .leftParen then do
    let ((tree, k), q) ← inner k (advance ts p)
    let ((_, k), q) ← expect ts (.symbol .rightParen) k q
    return ((tree, k), q)
  else
    match atom k (current ts p) with
    | .ok (tree, k) => return ((tree, k), advance ts p)
    | .error e => throw (⟨e, k⟩, advance ts p)

def prefixed (t : Token) (node : Tree → Tree) (self item : Reader Tree) : Reader Tree := fun k p =>
  if current ts p = t then do
    let ((tree, k), q) ← self k (advance ts p)
    return ((node tree, k), q)
  else item k p

def comparisonFrom (item : Reader Tree) (left : Tree) : Reader Tree := fun k p =>
  if current ts p = .keyword .is then do
    let q := advance ts p
    let negated := decide (current ts q = .keyword .not)
    let ((_, k), q) ← expect ts (.keyword .null) k (if negated then advance ts q else q)
    return ((.isNull negated left, k), q)
  else
    match compareOp? (current ts p) with
    | none => return ((left, k), p)
    | some op => do
      let ((right, k), q) ← item k (advance ts p)
      return ((.compare op left right, k), q)

def comparison (item : Reader Tree) : Reader Tree := fun k p => do
  let ((left, k), q) ← item k p
  comparisonFrom ts item left k q

def read : (limit : Nat) → Strength → Reader Tree
  | 0, _ => fun _ _ => .mk none
  | limit + 1, .primary => primary ts (read limit .disjunction)
  | limit + 1, .unary =>
    prefixed ts (.symbol .minus) .negate (read limit .unary) (read limit .primary)
  | limit + 1, .product => chain ts productOp? .arith (read limit .unary) limit
  | limit + 1, .sum => chain ts sumOp? .arith (read limit .product) limit
  | limit + 1, .comparison => comparison ts (read limit .sum)
  | limit + 1, .negation =>
    prefixed ts (.keyword .not) .not (read limit .negation) (read limit .comparison)
  | limit + 1, .conjunction => chain ts andOp? .logic (read limit .negation) limit
  | limit + 1, .disjunction => chain ts orOp? .logic (read limit .conjunction) limit

end Definitions

variable {ts us : List Token} {k p q limit high : Nat}

-- ---------------------------------------------------------------------------
-- Moving forward
-- ---------------------------------------------------------------------------

theorem le_advance (ts : List Token) (p : Nat) : p ≤ advance ts p := by
  unfold advance
  split <;> omega

theorem advance_le (hhigh : ts.length ≤ high) (hp : p ≤ high) : advance ts p ≤ high := by
  unfold advance
  split <;> omega

theorem lt_advance (h : current ts p ≠ .eof) : p < advance ts p := by
  have hp : p < ts.length := by
    by_contra hge
    exact h (by simp [current, List.getElem?_eq_none (Nat.le_of_not_lt hge)])
  rw [advance, if_pos hp]
  exact Nat.lt_succ_self p

section Ends

variable {item self inner : Reader Tree}

/-- Wherever it starts, the reader ends at `high` or before it, and succeeds ahead of its start. -/
def Moves (high : Nat) (item : Reader Tree) : Prop :=
  ∀ k p, p ≤ high → Ends high (fun _ q => p < q) (item k p)

variable (hhigh : ts.length ≤ high)
include hhigh

theorem ends_expect (wanted : Token) (hp : p ≤ high) :
    Ends high (fun _ q => p ≤ q) (expect ts wanted k p) := by
  unfold expect
  split
  next => exact ends_pure (le_advance ts p) (advance_le hhigh hp)
  next => exact ends_throw hp

theorem moves_primary (hinner : Moves high inner) : Moves high (primary ts inner) := by
  intro k p hp
  have hadvance := le_advance ts p
  have hle := advance_le hhigh hp
  unfold primary
  split
  next =>
    refine (hinner _ _ hle).bind fun r q hq hend => ?_
    refine (ends_expect hhigh _ hend).bind fun r q' hq' hend => ends_pure ?_ hend
    omega
  next =>
    split
    next h =>
      -- every reading takes up its first token here, and `eof` is none: it is no operand
      refine ends_pure (lt_advance ?_) hle
      intro heof
      simp [heof, atom] at h
    next => exact ends_throw hle

theorem moves_prefixed {t : Token} {node : Tree → Tree} (hself : Moves high self)
    (hitem : Moves high item) : Moves high (prefixed ts t node self item) := by
  intro k p hp
  have hadvance := le_advance ts p
  unfold prefixed
  split
  next =>
    refine (hself _ _ (advance_le hhigh hp)).bind fun r q hq hend => ends_pure ?_ hend
    omega
  next => exact hitem k p hp

variable (hitem : Moves high item)
include hitem

theorem ends_chainFrom {ω : Type} {op? : Token → Option ω} {node : ω → Tree → Tree → Tree}
    {left : Tree} (hp : p ≤ high) :
    Ends high (fun _ q => p ≤ q) (chainFrom ts op? node item limit left k p) := by
  induction limit generalizing left k p with
  | zero => exact ends_limit
  | succ limit ih =>
    have hadvance := le_advance ts p
    unfold chainFrom
    split
    next => exact ends_pure (Nat.le_refl p) hp
    next =>
      refine (hitem _ _ (advance_le hhigh hp)).bind fun r q hq hend => (ih hend).mono ?_
      intro _ q' hq'
      omega

theorem moves_chain {ω : Type} {op? : Token → Option ω} {node : ω → Tree → Tree → Tree} :
    Moves high (chain ts op? node item limit) := by
  intro k p hp
  refine (hitem k p hp).bind fun r q hq hend => (ends_chainFrom hhigh hitem hend).mono ?_
  intro _ q' hq'
  omega

theorem moves_comparison : Moves high (comparison ts item) := by
  intro k p hp
  refine (hitem k p hp).bind fun r q hq hend => ?_
  have hadvance := le_advance ts q
  have hle := advance_le hhigh hend
  simp only [comparisonFrom]
  split
  next =>
    have hnegated := le_advance ts (advance ts q)
    refine (ends_expect hhigh _ ?_).bind fun _ q' hq' hend => ends_pure ?_ hend
    · split
      · exact advance_le hhigh hle
      · exact hle
    · split at hq' <;> omega
  next =>
    split
    next => exact ends_pure hq hend
    next =>
      refine (hitem _ _ hle).bind fun r q' hq' hend => ends_pure ?_ hend
      omega

end Ends

theorem moves_read (hhigh : ts.length ≤ high) (limit : Nat) (s : Strength) :
    Moves high (read ts limit s) := by
  induction limit generalizing s with
  | zero => exact fun _ _ _ => ends_limit
  | succ limit ih =>
    cases s with
    | primary => exact moves_primary hhigh (ih _)
    | unary | negation => exact moves_prefixed hhigh (ih _) (ih _)
    | product | sum | conjunction | disjunction => exact moves_chain hhigh (ih _)
    | comparison => exact moves_comparison hhigh (ih _)

-- ---------------------------------------------------------------------------
-- The parser's outcome
-- ---------------------------------------------------------------------------

section Agrees

variable {α β : Type} {P Q : List Token → Prop}

/-- The attempt ends, and as the reading does: what the one leaves is what the other has ahead. -/
inductive Agrees (ts : List Token) :
    Attempt Failure ((α × Nat) × Nat) → Except Failure (α × Nat × { rest : List Token // P rest }) →
      Prop
  | ok {a : α} {k q : Nat} {rest : List Token} (hq : ts.drop q = rest) (h : P rest) :
      Agrees ts (pure ((a, k), q)) (.ok (a, k, ⟨rest, h⟩))
  | error {f : Failure} {q : Nat} : Agrees ts (throw (f, q)) (.error f)

variable {x : Attempt Failure ((α × Nat) × Nat)}
  {y : Except Failure (α × Nat × { rest : List Token // P rest })}

theorem Agrees.exists_of_gives {a : α} {rest : List Token} (h : Agrees ts x y)
    (hy : Parser.Gives y a k rest) : ∃ q, x = pure ((a, k), q) ∧ ts.drop q = rest := by
  obtain ⟨_, rfl⟩ := hy
  cases h with
  | ok hq => exact ⟨_, rfl, hq⟩

theorem Agrees.bind {f : (α × Nat) × Nat → Attempt Failure ((β × Nat) × Nat)}
    {g : α × Nat × { rest : List Token // P rest } →
      Except Failure (β × Nat × { rest : List Token // Q rest })}
    (h : Agrees ts x y)
    (hf : ∀ a k q rest (h : P rest), ts.drop q = rest →
      Agrees ts (f ((a, k), q)) (g (a, k, ⟨rest, h⟩))) :
    Agrees ts (x >>= f) (y >>= g) := by
  cases h with
  | ok hq h => exact hf _ _ _ _ h hq
  | error => exact .error

theorem Agrees.weaken
    {g : α × Nat × { rest : List Token // P rest } →
      Except Failure (α × Nat × { rest : List Token // Q rest })}
    (h : Agrees ts x y) (hg : ∀ a k rest h, ∃ h', g (a, k, ⟨rest, h⟩) = .ok (a, k, ⟨rest, h'⟩)) :
    Agrees ts x (y >>= g) := by
  cases h with
  | @ok a k q rest hq h =>
    obtain ⟨h', heq⟩ := hg a k rest h
    show Agrees ts _ (g _)
    rw [heq]
    exact .ok hq h'
  | error => exact .error

end Agrees

theorem current_eq (h : ts.drop p = us) : current ts p = Parser.current us := by
  subst h
  simp [current, Parser.current, List.headD_eq_head?_getD]

theorem drop_advance (h : ts.drop p = us) : ts.drop (advance ts p) = us.tail := by
  subst h
  unfold advance
  split
  next => exact List.tail_drop.symm
  next h => rw [List.drop_eq_nil_of_le (Nat.le_of_not_lt h)]; rfl

theorem agrees_expect {wanted : Token} (hwanted : wanted ≠ .eof) (hus : ts.drop p = us) :
    Agrees ts (expect ts wanted k p) (Parser.expect wanted k us) := by
  have hcurrent := current_eq hus
  unfold expect
  cases us with
  | nil =>
    -- behind the last token, only `eof` could be expected and found
    rw [if_neg (by simpa [hcurrent, Parser.current] using hwanted.symm), hcurrent]
    exact .error
  | cons t us =>
    simp only [hcurrent, Parser.current, List.headD_cons, Parser.expect]
    split
    · exact .ok (drop_advance hus) _
    · exact .error

section Levels

variable {n : Nat} {item self inner : Reader Tree}

theorem agrees_primary {inner' : Parser.Inner n} (hus : ts.drop p = us) (hn : us.length ≤ n)
    (hinner : ∀ k q vs h, ts.drop q = vs → vs.length < us.length →
      Agrees ts (inner k q) (inner' k vs h)) :
    Agrees ts (primary ts inner k p) (Parser.primary inner' k us hn) := by
  have hcurrent := current_eq hus
  have hadvance := drop_advance hus
  unfold primary
  cases us with
  | nil =>
    simp only [hcurrent, Parser.current, List.headD_nil]
    exact .error
  | cons t us =>
    simp only [hcurrent, Parser.current, List.headD_cons]
    by_cases ht : t = .symbol .leftParen
    · subst ht
      rw [if_pos rfl]
      refine (hinner _ _ us hn hadvance (Nat.lt_succ_self _)).bind fun tree k q vs hvs hq => ?_
      exact (agrees_expect (by simp) hq).bind fun _ k r ws hws hr => .ok hr _
    · rw [if_neg ht, Parser.primary]
      · rcases atom k t with e | ⟨tree, k⟩
        · exact .error
        · exact .ok hadvance _
      · exact ht

theorem agrees_prefixed {t : Token} {node : Tree → Tree} {level below : Parser.Level n}
    (ht : t ≠ .eof)
    (hstep : ∀ {k us h}, level k (t :: us) h = level k us (Nat.le_of_succ_le h) >>= fun r =>
      .ok (node r.1, r.2.1, ⟨r.2.2.1, Nat.lt_succ_of_lt r.2.2.2⟩))
    (hstop : ∀ {k us h}, (∀ vs, us ≠ t :: vs) → level k us h = below k us h)
    (hus : ts.drop p = us) (hn : us.length ≤ n)
    (hself : ∀ k q vs h, ts.drop q = vs → vs.length < us.length →
      Agrees ts (self k q) (level k vs h))
    (hitem : Agrees ts (item k p) (below k us hn)) :
    Agrees ts (prefixed ts t node self item k p) (level k us hn) := by
  have hcurrent := current_eq hus
  have hadvance := drop_advance hus
  unfold prefixed
  cases us with
  | nil =>
    rw [if_neg (by simpa [hcurrent, Parser.current] using ht.symm), hstop (by simp)]
    exact hitem
  | cons t' us =>
    simp only [hcurrent, Parser.current, List.headD_cons]
    by_cases heq : t' = t
    · subst heq
      rw [if_pos rfl, hstep]
      exact (hself _ _ us _ hadvance (Nat.lt_succ_self _)).bind fun tree k q vs hvs hq => .ok hq _
    · rw [if_neg heq, hstop (by simp [heq])]
      exact hitem

section Chains

variable {ω : Type} {op? : Token → Option ω} {node : ω → Tree → Tree → Tree}
  {level : Parser.Level n} {length : Nat}

theorem agrees_chainFrom (hop : op? .eof = none)
    (hitem : ∀ k q vs h, ts.drop q = vs → vs.length ≤ length → Agrees ts (item k q) (level k vs h))
    {left : Tree} (hus : ts.drop p = us) (hn : us.length ≤ n) (hlength : us.length ≤ length)
    (hlimit : us.length < limit) :
    Agrees ts (chainFrom ts op? node item limit left k p)
      (Parser.chainFrom op? node level left k us hn) := by
  induction limit generalizing left k p us with
  | zero => omega
  | succ limit ih =>
    have hcurrent := current_eq hus
    have hadvance := drop_advance hus
    unfold chainFrom
    cases us with
    | nil =>
      rw [hcurrent, Parser.chainFrom]
      simp only [Parser.current, List.headD_nil, hop]
      exact .ok hus _
    | cons t us =>
      rw [hcurrent, Parser.chainFrom]
      simp only [Parser.current, List.headD_cons, List.length_cons] at hlength hlimit ⊢
      cases op? t with
      | none => exact .ok hus _
      | some op =>
        -- the operator takes up one of the limit, and two tokens at least with its operand
        refine (hitem _ _ us _ hadvance (by omega)).bind fun right k q vs hvs hq => ?_
        have hvs : vs.length < us.length := hvs
        exact (ih hq _ (by omega) (by omega)).weaken fun _ _ _ _ => ⟨_, rfl⟩

theorem agrees_chain (hop : op? .eof = none) (hus : ts.drop p = us) (hn : us.length ≤ n)
    (hitem : ∀ k q vs h, ts.drop q = vs → vs.length ≤ us.length →
      Agrees ts (item k q) (level k vs h))
    (hlimit : us.length ≤ limit) :
    Agrees ts (chain ts op? node item limit k p) (Parser.chain op? node level k us hn) := by
  refine (hitem k p us hn hus (Nat.le_refl _)).bind fun left k q vs hvs hq => ?_
  have hvs : vs.length < us.length := hvs
  exact (agrees_chainFrom hop hitem hq _ (by omega) (by omega)).weaken fun _ _ _ _ => ⟨_, rfl⟩

end Chains

theorem agrees_comparison {inner' : Parser.Inner n} (hus : ts.drop p = us) (hn : us.length ≤ n)
    (hitem : ∀ k q vs h, ts.drop q = vs → vs.length ≤ us.length →
      Agrees ts (item k q) (Parser.sum inner' k vs h)) :
    Agrees ts (comparison ts item k p) (Parser.comparison inner' k us hn) := by
  refine (hitem k p us hn hus (Nat.le_refl _)).bind fun left k q vs hvs hq => ?_
  have hcurrent := current_eq hq
  have hadvance := drop_advance hq
  simp only
  split
  next ws hws =>
    have his : current ts q = .keyword .is := hcurrent
    have hnot : current ts (advance ts q) = .keyword .not := current_eq hadvance
    rw [comparisonFrom, if_pos his]
    simp only [hnot, decide_true, if_true]
    exact (agrees_expect (by simp) (drop_advance hadvance)).bind fun _ _ r xs hxs hr => .ok hr _
  next ws hws hne =>
    have his : current ts q = .keyword .is := hcurrent
    have hnot : current ts (advance ts q) ≠ .keyword .not := by
      rw [current_eq hadvance]
      intro heq
      cases ws with
      | nil => cases heq
      | cons t ws =>
        cases heq
        exact hne ws hws .rfl rfl
    rw [comparisonFrom, if_pos his]
    simp only [hnot, decide_false, Bool.false_eq_true, if_false]
    exact (agrees_expect (by simp) hadvance).bind fun _ _ r xs hxs hr => .ok hr _
  next =>
    rw [comparisonFrom, hcurrent]
    exact .ok hq _
  next t ws hws _ ht =>
    have hlength : ws.length ≤ us.length := Nat.le_of_lt (Nat.lt_of_succ_lt hws)
    rw [comparisonFrom, if_neg (fun h => ht (hcurrent.symm.trans h)), hcurrent]
    simp only [Parser.current, List.headD_cons]
    cases compareOp? t with
    | none => exact .ok hq _
    | some op => exact (hitem _ _ ws _ hadvance hlength).bind fun right _ r xs hxs hr => .ok hr _

end Levels

theorem rank_lt (s : Strength) : s.rank < 8 := by
  cases s <;> decide

/-- With a limit of eight for each token ahead: so many calls lead from one parenthesis into the
next. -/
theorem agrees_read {s : Strength} {n : Nat} (hus : ts.drop p = us) (hn : us.length ≤ n)
    (hlimit : 8 * us.length + s.rank < limit) :
    Agrees ts (read ts limit s k p) (s.reader (fun k vs _ => Parser.condition k vs) k us hn) := by
  induction limit generalizing s k p us n with
  | zero => omega
  | succ limit ih =>
    -- a call is for fewer tokens, or for no more of them and at a stronger level
    have hahead {m : Nat} (s' : Strength) (k q vs) (h : vs.length ≤ m) (hq : ts.drop q = vs)
        (hlt : vs.length < us.length) :
        Agrees ts (read ts limit s' k q)
          (s'.reader (fun k vs _ => Parser.condition k vs) k vs h) := by
      have := rank_lt s'
      exact ih hq h (by omega)
    have hbelow (s' : Strength) (hrank : s'.rank < s.rank) (k q vs) (h : vs.length ≤ n)
        (hq : ts.drop q = vs) (hle : vs.length ≤ us.length) :
        Agrees ts (read ts limit s' k q)
          (s'.reader (fun k vs _ => Parser.condition k vs) k vs h) :=
      ih hq h (by omega)
    have hlength : us.length ≤ limit := by omega
    cases s with
    | primary =>
      refine agrees_primary hus hn fun k q vs h hq hvs => ?_
      rw [Parser.condition]
      exact hahead .disjunction k q vs (Nat.le_refl _) hq hvs
    | unary =>
      refine agrees_prefixed (by simp) rfl (fun hne => ?_) hus hn (hahead .unary)
        (hbelow .primary (by decide) k p us hn hus (Nat.le_refl _))
      show Parser.unary _ _ _ _ = Parser.primary _ _ _ _
      rw [Parser.unary]
      exact fun us _ heq _ => hne us heq
    | negation =>
      refine agrees_prefixed (by simp) rfl (fun hne => ?_) hus hn (hahead .negation)
        (hbelow .comparison (by decide) k p us hn hus (Nat.le_refl _))
      show Parser.negation _ _ _ _ = Parser.comparison _ _ _ _
      rw [Parser.negation]
      exact fun us _ heq _ => hne us heq
    | product => exact agrees_chain rfl hus hn (hbelow .unary (by decide)) hlength
    | sum => exact agrees_chain rfl hus hn (hbelow .product (by decide)) hlength
    | conjunction => exact agrees_chain rfl hus hn (hbelow .negation (by decide)) hlength
    | disjunction => exact agrees_chain rfl hus hn (hbelow .conjunction (by decide)) hlength
    | comparison => exact agrees_comparison hus hn (hbelow .sum (by decide))

end PredicateSql.Cursor
