import Mathlib
import PredicateSql.Select.Parser

/-!
# The grammar of conditions

`Derives strength k ts tree k'`: the tokens `ts` spell `tree` at that strength of binding, by one
rule for each form of condition; where `k` of `?` were read before them, it is `k'` behind them.
`Derives.gives`: the parser reads derived tokens as their tree, whatever comes behind them, unless
it binds to them.
-/

namespace PredicateSql.Parser

inductive Strength
  | primary
  | unary
  | product
  | sum
  | comparison
  | negation
  | conjunction
  | disjunction
deriving DecidableEq

inductive Derives : Strength → Nat → List Token → Tree → Nat → Prop
  | atom {k k' t tree} : Parser.atom k t = .ok (tree, k') → Derives .primary k [t] tree k'
  | parens {k k' ts tree} : Derives .disjunction k ts tree k' →
      Derives .primary k (.symbol .leftParen :: (ts ++ [.symbol .rightParen])) tree k'
  | ofPrimary {k k' ts tree} : Derives .primary k ts tree k' → Derives .unary k ts tree k'
  | negate {k k' ts tree} : Derives .unary k ts tree k' →
      Derives .unary k (.symbol .minus :: ts) (.negate tree) k'
  | ofUnary {k k' ts tree} : Derives .unary k ts tree k' → Derives .product k ts tree k'
  | product {k l m ts us t op left right} : productOp? t = some op → Derives .product k ts left l →
      Derives .unary l us right m → Derives .product k (ts ++ t :: us) (.arith op left right) m
  | ofProduct {k k' ts tree} : Derives .product k ts tree k' → Derives .sum k ts tree k'
  | sum {k l m ts us t op left right} : sumOp? t = some op → Derives .sum k ts left l →
      Derives .product l us right m → Derives .sum k (ts ++ t :: us) (.arith op left right) m
  | ofSum {k k' ts tree} : Derives .sum k ts tree k' → Derives .comparison k ts tree k'
  | isNull {k k' ts tree} : Derives .sum k ts tree k' →
      Derives .comparison k (ts ++ [.keyword .is, .keyword .null]) (.isNull false tree) k'
  | isNotNull {k k' ts tree} : Derives .sum k ts tree k' →
      Derives .comparison k (ts ++ [.keyword .is, .keyword .not, .keyword .null])
        (.isNull true tree) k'
  | compare {k l m ts us t op left right} : compareOp? t = some op → Derives .sum k ts left l →
      Derives .sum l us right m → Derives .comparison k (ts ++ t :: us) (.compare op left right) m
  | ofComparison {k k' ts tree} : Derives .comparison k ts tree k' → Derives .negation k ts tree k'
  | not {k k' ts tree} : Derives .negation k ts tree k' →
      Derives .negation k (.keyword .not :: ts) (.not tree) k'
  | ofNegation {k k' ts tree} : Derives .negation k ts tree k' → Derives .conjunction k ts tree k'
  | and {k l m ts us t op left right} : andOp? t = some op → Derives .conjunction k ts left l →
      Derives .negation l us right m →
      Derives .conjunction k (ts ++ t :: us) (.logic op left right) m
  | ofConjunction {k k' ts tree} : Derives .conjunction k ts tree k' →
      Derives .disjunction k ts tree k'
  | or {k l m ts us t op left right} : orOp? t = some op → Derives .disjunction k ts left l →
      Derives .conjunction l us right m →
      Derives .disjunction k (ts ++ t :: us) (.logic op left right) m

-- ---------------------------------------------------------------------------
-- What may follow
-- ---------------------------------------------------------------------------

def Strength.rank : Strength → Nat
  | .primary => 0
  | .unary => 1
  | .product => 2
  | .sum => 3
  | .comparison => 4
  | .negation => 5
  | .conjunction => 6
  | .disjunction => 7

def Strength.stronger : Strength → Strength
  | .primary | .unary => .primary
  | .product => .unary
  | .sum => .product
  | .comparison => .sum
  | .negation => .comparison
  | .conjunction => .negation
  | .disjunction => .conjunction

theorem Strength.rank_stronger (s : Strength) : s.stronger.rank = s.rank - 1 := by
  cases s <;> rfl

theorem Strength.eq_of_rank_eq {s s' : Strength} (h : s.rank = s'.rank) : s = s' := by
  cases s <;> cases s' <;> cases h <;> rfl

theorem Derives.ofStronger {s : Strength} {k k' : Nat} {ts : List Token} {tree : Tree}
    (h : Derives s.stronger k ts tree k') : Derives s k ts tree k' := by
  cases s with
  | primary => exact h
  | unary => exact .ofPrimary h
  | product => exact .ofUnary h
  | sum => exact .ofProduct h
  | comparison => exact .ofSum h
  | negation => exact .ofComparison h
  | conjunction => exact .ofNegation h
  | disjunction => exact .ofConjunction h

theorem Derives.mono {s s' : Strength} {k k' : Nat} {ts : List Token} {tree : Tree}
    (h : Derives s k ts tree k') (hle : s.rank ≤ s'.rank) : Derives s' k ts tree k' := by
  by_cases heq : s.rank = s'.rank
  · exact Strength.eq_of_rank_eq heq ▸ h
  · refine ofStronger (mono h ?_)
    rw [Strength.rank_stronger]
    omega
termination_by s'.rank
decreasing_by
  rw [Strength.rank_stronger]
  omega

/-- The rank of the condition that a token builds from others; there is none of the last. -/
def joinRank : Token → Nat
  | .symbol .star | .symbol .slash | .symbol .percent => 2
  | .symbol .plus | .symbol .minus => 3
  | .symbol .equal | .symbol .notEqual | .symbol .less | .symbol .lessEqual
  | .symbol .greater | .symbol .greaterEqual | .keyword .is => 4
  | .keyword .and => 6
  | .keyword .or => 7
  | _ => 8

/-- What follows does not bind to a condition of that strength. -/
def Follows (s : Strength) (rest : List Token) : Prop :=
  s.rank < joinRank (current rest)

theorem Follows.mono {s s' : Strength} {rest : List Token} (h : Follows s' rest)
    (hle : s.rank ≤ s'.rank) : Follows s rest :=
  Nat.lt_of_le_of_lt hle h

section Joins

variable {t : Token}

theorem joinRank_of_productOp? {op : ArithOp} (h : productOp? t = some op) : joinRank t = 2 := by
  unfold productOp? at h
  split at h <;> simp_all [joinRank]

theorem joinRank_of_sumOp? {op : ArithOp} (h : sumOp? t = some op) : joinRank t = 3 := by
  unfold sumOp? at h
  split at h <;> simp_all [joinRank]

theorem joinRank_of_compareOp? {op : CompareOp} (h : compareOp? t = some op) : joinRank t = 4 := by
  unfold compareOp? at h
  split at h <;> simp_all [joinRank]

theorem joinRank_of_andOp? {op : LogicOp} (h : andOp? t = some op) : joinRank t = 6 := by
  unfold andOp? at h
  split at h <;> simp_all [joinRank]

theorem joinRank_of_orOp? {op : LogicOp} (h : orOp? t = some op) : joinRank t = 7 := by
  unfold orOp? at h
  split at h <;> simp_all [joinRank]

theorem eq_none_of_joinRank {ω : Type} {op? : Token → Option ω} {rank : Nat}
    (hop : ∀ op, op? t = some op → joinRank t = rank) (h : rank < joinRank t) : op? t = none := by
  cases ht : op? t with
  | none => rfl
  | some op =>
    have := hop op ht
    omega

end Joins

-- ---------------------------------------------------------------------------
-- Readings
-- ---------------------------------------------------------------------------

section Readings

variable {α : Type} {n : Nat}

/-- The reading succeeds with `a`, the count is `k` then, and `rest` is left. -/
def Gives {p : List Token → Prop} (r : Except Failure (α × Nat × { rest : List Token // p rest }))
    (a : α) (k : Nat) (rest : List Token) : Prop :=
  ∃ h, r = .ok (a, k, ⟨rest, h⟩)

theorem expect_gives (t : Token) (k : Nat) (ts : List Token) :
    Gives (expect t k (t :: ts)) () k ts :=
  ⟨Nat.lt_succ_self _, by simp [expect]⟩

variable {ω : Type} {op? : Token → Option ω} {node : ω → Tree → Tree → Tree} {item : Level n}
  {left right tree : Tree} {t : Token} {op : ω} {k l m : Nat} {ts us rest : List Token}

theorem chainFrom_stop (hts : ts.length ≤ n) (h : op? (current ts) = none) :
    Gives (chainFrom op? node item left k ts hts) left k ts := by
  cases ts with
  | nil => exact ⟨Nat.le_refl _, by rw [chainFrom]⟩
  | cons t ts =>
    refine ⟨Nat.le_refl _, ?_⟩
    rw [chainFrom]
    simp only [current, List.headD_cons] at h
    simp [h]

theorem chainFrom_step {hts : (t :: ts).length ≤ n} {hus : us.length ≤ n} (hop : op? t = some op)
    (hitem : Gives (item k ts (Nat.le_of_succ_le hts)) right l us)
    (h : Gives (chainFrom op? node item (node op left right) l us hus) tree m rest) :
    Gives (chainFrom op? node item left k (t :: ts) hts) tree m rest := by
  obtain ⟨hu, hitem⟩ := hitem
  obtain ⟨hr, h⟩ := h
  refine ⟨Nat.le_succ_of_le (Nat.le_trans hr (Nat.le_of_lt hu)), ?_⟩
  rw [chainFrom]
  simp [hop, hitem, h, bind, Except.bind, pure, Except.pure]

theorem chain_gives {hts : ts.length ≤ n} {hus : us.length ≤ n}
    (hitem : Gives (item k ts hts) left l us)
    (h : Gives (chainFrom op? node item left l us hus) tree m rest) :
    Gives (chain op? node item k ts hts) tree m rest := by
  obtain ⟨hu, hitem⟩ := hitem
  obtain ⟨hr, h⟩ := h
  refine ⟨Nat.lt_of_le_of_lt hr hu, ?_⟩
  simp [chain, hitem, h, bind, Except.bind, pure, Except.pure]

end Readings

-- ---------------------------------------------------------------------------
-- Derived tokens are read
-- ---------------------------------------------------------------------------

theorem Derives.head {s : Strength} {k k' : Nat} {ts : List Token} {tree : Tree}
    (h : Derives s k ts tree k') :
    ∃ t us, ts = t :: us ∧ (s.rank < Strength.unary.rank → t ≠ .symbol .minus) ∧
      (s.rank < Strength.negation.rank → t ≠ .keyword .not) := by
  induction h with
  | @atom _ _ t tree ha =>
    refine ⟨t, [], rfl, ?_, ?_⟩
    · rintro - rfl
      cases ha
    · rintro - rfl
      cases ha
  | parens => exact ⟨_, _, rfl, by simp, by simp⟩
  | negate => exact ⟨_, _, rfl, by simp [Strength.rank], by simp⟩
  | not => exact ⟨_, _, rfl, by simp, by simp [Strength.rank]⟩
  | ofPrimary _ ih | ofUnary _ ih | ofProduct _ ih | ofSum _ ih | ofComparison _ ih
  | ofNegation _ ih
  | ofConjunction _ ih =>
    obtain ⟨t, us, rfl, -, hn⟩ := ih
    exact ⟨t, us, rfl, by simp [Strength.rank], fun h => hn (Nat.lt_of_le_of_lt (by decide) h)⟩
  | isNull _ ih | isNotNull _ ih | product _ _ _ ih | sum _ _ _ ih | compare _ _ _ ih | and _ _ _ ih
  | or _ _ _ ih =>
    obtain ⟨t, us, rfl, -, hn⟩ := ih
    exact ⟨t, _, rfl, by simp [Strength.rank], fun h => hn (Nat.lt_of_le_of_lt (by decide) h)⟩

def Strength.reader {n : Nat} (inner : Inner n) : Strength → Level n
  | .primary => Parser.primary inner
  | .unary => Parser.unary inner
  | .product => Parser.product inner
  | .sum => Parser.sum inner
  | .comparison => Parser.comparison inner
  | .negation => Parser.negation inner
  | .conjunction => Parser.conjunction inner
  | .disjunction => Parser.disjunction inner

/-- Behind `k` of `?`, the parser reads `ts` as `tree` and has read `k'` of them then; it stops
there if what follows does not bind. -/
def Read (s : Strength) (k : Nat) (ts : List Token) (tree : Tree) (k' : Nat) : Prop :=
  ∀ (n : Nat) (rest : List Token) (h : (ts ++ rest).length ≤ n), Follows s rest →
    Gives (s.reader (fun k us _ => condition k us) k (ts ++ rest) h) tree k' rest

/-- The parser reads `ts` as `left` and goes on to the operators behind them. This is what a
chain of operators keeps from one to the next: it groups to the left, so its first operands are
not read on their own. -/
def Extends {ω : Type} (op? : Token → Option ω) (node : ω → Tree → Tree → Tree) (item : Strength)
    (k : Nat) (ts : List Token) (left : Tree) (l : Nat) : Prop :=
  ∀ (n : Nat) (rest : List Token) (h : (ts ++ rest).length ≤ n) (h' : rest.length ≤ n)
    (tree : Tree) (m : Nat) (last : List Token), Follows item rest →
    Gives (chainFrom op? node (item.reader fun k us _ => condition k us) left l rest h')
      tree m last →
    Gives (chain op? node (item.reader fun k us _ => condition k us) k (ts ++ rest) h) tree m last

section Chains

variable {ω : Type} {op? : Token → Option ω} {node : ω → Tree → Tree → Tree} {item : Strength}
  {ts us : List Token} {left right tree : Tree} {t : Token} {op : ω} {k l m : Nat}

theorem Read.extends (h : Read item k ts left l) : Extends op? node item k ts left l := by
  intro n rest hn hn' tree m last hf hchain
  exact chain_gives (h n rest hn hf) hchain

theorem Extends.step (h : Extends op? node item k ts left l) (hop : op? t = some op)
    (ht : item.rank < joinRank t) (hr : Read item l us right m) :
    Extends op? node item k (ts ++ t :: us) (node op left right) m := by
  intro n rest
  rw [show ts ++ t :: us ++ rest = ts ++ t :: (us ++ rest) by simp]
  intro hn hn' tree m' last hf hchain
  have hlen : (t :: (us ++ rest)).length ≤ n := by
    simp only [List.length_append] at hn
    omega
  exact h n _ hn hlen tree m' last ht (chainFrom_step hop (hr n rest _ hf) hchain)

theorem Extends.read (h : Extends op? node item k ts tree l) {n : Nat} {rest : List Token}
    (hn : (ts ++ rest).length ≤ n) (hf : Follows item rest) (hop : op? (current rest) = none) :
    Gives (chain op? node (item.reader fun k us _ => condition k us) k (ts ++ rest) hn)
      tree l rest := by
  have hrest : rest.length ≤ n := by
    simp only [List.length_append] at hn
    omega
  exact h n rest hn hrest tree l rest hf (chainFrom_stop hrest hop)

end Chains

def Strength.Reads : Strength → Nat → List Token → Tree → Nat → Prop
  | .product => Extends productOp? .arith .unary
  | .sum => Extends sumOp? .arith .product
  | .conjunction => Extends andOp? .logic .negation
  | .disjunction => Extends orOp? .logic .conjunction
  | s => Read s

theorem Strength.Reads.read {s : Strength} {k k' : Nat} {ts : List Token} {tree : Tree}
    (h : s.Reads k ts tree k') : Read s k ts tree k' := by
  intro n rest hn hf
  cases s with
  | product =>
    exact Extends.read h hn (hf.mono (by decide))
      (eq_none_of_joinRank (fun _ => joinRank_of_productOp?) hf)
  | sum =>
    exact Extends.read h hn (hf.mono (by decide))
      (eq_none_of_joinRank (fun _ => joinRank_of_sumOp?) hf)
  | conjunction =>
    exact Extends.read h hn (hf.mono (by decide))
      (eq_none_of_joinRank (fun _ => joinRank_of_andOp?) hf)
  | disjunction =>
    exact Extends.read h hn (hf.mono (by decide))
      (eq_none_of_joinRank (fun _ => joinRank_of_orOp?) hf)
  | _ => exact h n rest hn hf

section Levels

variable {ts us : List Token} {left right tree : Tree} {t : Token} {k l m : Nat}

theorem read_atom (h : atom k t = .ok (tree, l)) : Read .primary k [t] tree l := by
  intro n rest hn hf
  have ht : t ≠ .symbol .leftParen := by
    rintro rfl
    cases h
  refine ⟨Nat.lt_succ_self _, ?_⟩
  show primary _ k (t :: rest) hn = _
  rw [primary]
  · simp [h]
  · exact ht

theorem read_parens (h : Read .disjunction k ts tree l) :
    Read .primary k (.symbol .leftParen :: (ts ++ [.symbol .rightParen])) tree l := by
  intro n rest
  rw [show .symbol .leftParen :: (ts ++ [.symbol .rightParen]) ++ rest =
    .symbol .leftParen :: (ts ++ .symbol .rightParen :: rest) by simp]
  intro hn hf
  obtain ⟨hi, hinner⟩ := h _ (.symbol .rightParen :: rest) (Nat.le_refl _)
    (show 7 < 8 by decide)
  obtain ⟨he, hexpect⟩ := expect_gives (.symbol .rightParen) l rest
  refine ⟨Nat.lt_succ_of_lt (Nat.lt_trans he hi), ?_⟩
  have hcond : condition k (ts ++ .symbol .rightParen :: rest) =
      .ok (tree, l, ⟨.symbol .rightParen :: rest, hi⟩) := by
    rw [condition]
    exact hinner
  simp [Strength.reader, primary, hcond, hexpect, bind, Except.bind, pure, Except.pure]

theorem read_negate (h : Read .unary k ts tree l) :
    Read .unary k (.symbol .minus :: ts) (.negate tree) l := by
  intro n rest hn hf
  obtain ⟨hr, h⟩ := h n rest (Nat.le_of_succ_le hn) hf
  refine ⟨Nat.lt_succ_of_lt hr, ?_⟩
  show unary _ k (.symbol .minus :: (ts ++ rest)) hn = _
  rw [unary]
  simp only [Strength.reader] at h
  simp [h, bind, Except.bind, pure, Except.pure]

theorem read_unary (h : Read .primary k (t :: ts) tree l) (ht : t ≠ .symbol .minus) :
    Read .unary k (t :: ts) tree l := by
  intro n rest hn hf
  obtain ⟨hr, h⟩ := h n rest hn (hf.mono (by decide))
  refine ⟨hr, ?_⟩
  show unary _ k (t :: (ts ++ rest)) hn = _
  rw [unary]
  · exact h
  · intro us _ heq
    exact absurd (List.cons.inj heq).1 ht

theorem read_not (h : Read .negation k ts tree l) :
    Read .negation k (.keyword .not :: ts) (.not tree) l := by
  intro n rest hn hf
  obtain ⟨hr, h⟩ := h n rest (Nat.le_of_succ_le hn) hf
  refine ⟨Nat.lt_succ_of_lt hr, ?_⟩
  show negation _ k (.keyword .not :: (ts ++ rest)) hn = _
  rw [negation]
  simp only [Strength.reader] at h
  simp [h, bind, Except.bind, pure, Except.pure]

theorem read_negation (h : Read .comparison k (t :: ts) tree l) (ht : t ≠ .keyword .not) :
    Read .negation k (t :: ts) tree l := by
  intro n rest hn hf
  obtain ⟨hr, h⟩ := h n rest hn (hf.mono (by decide))
  refine ⟨hr, ?_⟩
  show negation _ k (t :: (ts ++ rest)) hn = _
  rw [negation]
  · exact h
  · intro us _ heq
    exact absurd (List.cons.inj heq).1 ht

/-- Behind a sum, a token other than `IS` is a comparison operator or the end. -/
theorem comparison_of_ne_is {n : Nat} {inner : Inner n} {hn : ts.length ≤ n}
    {hu : (t :: us).length < ts.length} (h : sum inner k ts hn = .ok (left, l, ⟨t :: us, hu⟩))
    (ht : t ≠ .keyword .is) :
    comparison inner k ts hn = match compareOp? t with
      | none => .ok (left, l, ⟨t :: us, hu⟩)
      | some op => do
        let (right, m, ⟨rest, hr⟩) ←
          sum inner l us (Nat.le_trans (Nat.le_of_lt (Nat.lt_of_succ_lt hu)) hn)
        return (.compare op left right, m, ⟨rest, Nat.lt_trans hr (Nat.lt_of_succ_lt hu)⟩) := by
  simp only [comparison, h, bind, Except.bind]
  split
  next heq _ => exact absurd (List.cons.inj heq).1 ht
  next heq _ => exact absurd (List.cons.inj heq).1 ht
  next heq _ => cases heq
  next heq _ => cases heq; rfl

theorem read_sum (h : Read .sum k ts tree l) : Read .comparison k ts tree l := by
  intro n rest hn hf
  obtain ⟨hr, h⟩ := h n rest hn (hf.mono (by decide))
  refine ⟨hr, ?_⟩
  cases rest with
  | nil =>
    simp only [Strength.reader] at h
    simp [Strength.reader, comparison, h, bind, Except.bind, pure, Except.pure]
  | cons t rest =>
    have hop : compareOp? t = none := eq_none_of_joinRank (fun _ => joinRank_of_compareOp?) hf
    have ht : t ≠ .keyword .is := by
      rintro rfl
      exact absurd hf (Nat.lt_irrefl 4)
    show comparison _ k (ts ++ t :: rest) hn = _
    rw [comparison_of_ne_is h ht, hop]

theorem read_isNull (h : Read .sum k ts tree l) :
    Read .comparison k (ts ++ [.keyword .is, .keyword .null]) (.isNull false tree) l := by
  intro n rest
  rw [show ts ++ [.keyword .is, .keyword .null] ++ rest =
    ts ++ .keyword .is :: .keyword .null :: rest by simp]
  intro hn hf
  obtain ⟨hr, h⟩ := h n (.keyword .is :: .keyword .null :: rest) hn (show 3 < 4 by decide)
  obtain ⟨he, hexpect⟩ := expect_gives (.keyword .null) l rest
  refine ⟨Nat.lt_trans he (Nat.lt_of_succ_lt hr), ?_⟩
  simp only [Strength.reader] at h
  simp [Strength.reader, comparison, h, hexpect, bind, Except.bind, pure, Except.pure]

theorem read_isNotNull (h : Read .sum k ts tree l) :
    Read .comparison k (ts ++ [.keyword .is, .keyword .not, .keyword .null])
      (.isNull true tree) l := by
  intro n rest
  rw [show ts ++ [.keyword .is, .keyword .not, .keyword .null] ++ rest =
    ts ++ .keyword .is :: .keyword .not :: .keyword .null :: rest by simp]
  intro hn hf
  obtain ⟨hr, h⟩ := h n (.keyword .is :: .keyword .not :: .keyword .null :: rest) hn
    (show 3 < 4 by decide)
  obtain ⟨he, hexpect⟩ := expect_gives (.keyword .null) l rest
  refine ⟨Nat.lt_trans he (Nat.lt_of_succ_lt (Nat.lt_of_succ_lt hr)), ?_⟩
  simp only [Strength.reader] at h
  simp [Strength.reader, comparison, h, hexpect, bind, Except.bind, pure, Except.pure]

theorem read_compare {op : CompareOp} (hop : compareOp? t = some op) (hl : Read .sum k ts left l)
    (hr : Read .sum l us right m) :
    Read .comparison k (ts ++ t :: us) (.compare op left right) m := by
  intro n rest
  rw [show ts ++ t :: us ++ rest = ts ++ t :: (us ++ rest) by simp]
  intro hn hf
  have ht : joinRank t = 4 := joinRank_of_compareOp? hop
  obtain ⟨hlr, hl⟩ := hl n (t :: (us ++ rest)) hn (show 3 < joinRank t by omega)
  have hlen : (us ++ rest).length ≤ n := by
    simp only [List.length_append, List.length_cons] at hn ⊢
    omega
  obtain ⟨hrr, hr⟩ := hr n rest hlen (hf.mono (by decide))
  have hne : t ≠ .keyword .is := by
    rintro rfl
    cases hop
  refine ⟨Nat.lt_trans hrr (Nat.lt_of_succ_lt hlr), ?_⟩
  show comparison _ k (ts ++ t :: (us ++ rest)) hn = _
  simp only [Strength.reader] at hr
  rw [comparison_of_ne_is hl hne, hop]
  simp [hr, bind, Except.bind, pure, Except.pure]

end Levels

theorem Derives.reads {s : Strength} {k k' : Nat} {ts : List Token} {tree : Tree}
    (h : Derives s k ts tree k') : s.Reads k ts tree k' := by
  induction h with
  | atom h => exact read_atom h
  | parens _ ih => exact read_parens ih.read
  | ofPrimary h ih =>
    obtain ⟨t, us, rfl, ht, -⟩ := h.head
    exact read_unary ih (ht (by decide))
  | negate _ ih => exact read_negate ih
  | ofUnary _ ih => exact ih.read.extends
  | product hop _ _ ihl ihr =>
    exact ihl.step hop (by rw [joinRank_of_productOp? hop]; decide) ihr.read
  | ofProduct _ ih => exact ih.read.extends
  | sum hop _ _ ihl ihr => exact ihl.step hop (by rw [joinRank_of_sumOp? hop]; decide) ihr.read
  | ofSum _ ih => exact read_sum ih.read
  | isNull _ ih => exact read_isNull ih.read
  | isNotNull _ ih => exact read_isNotNull ih.read
  | compare hop _ _ ihl ihr => exact read_compare hop ihl.read ihr.read
  | ofComparison h ih =>
    obtain ⟨t, us, rfl, -, ht⟩ := h.head
    exact read_negation ih (ht (by decide))
  | not _ ih => exact read_not ih
  | ofNegation _ ih => exact ih.read.extends
  | and hop _ _ ihl ihr => exact ihl.step hop (by rw [joinRank_of_andOp? hop]; decide) ihr.read
  | ofConjunction _ ih => exact ih.read.extends
  | or hop _ _ ihl ihr => exact ihl.step hop (by rw [joinRank_of_orOp? hop]; decide) ihr.read

theorem Derives.gives {k k' : Nat} {ts rest : List Token} {tree : Tree}
    (h : Derives .disjunction k ts tree k') (hf : Follows .disjunction rest) :
    Gives (condition k (ts ++ rest)) tree k' rest := by
  rw [condition]
  exact h.reads.read _ rest (Nat.le_refl _) hf

end PredicateSql.Parser
