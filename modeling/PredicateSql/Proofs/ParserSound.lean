import PredicateSql.Proofs.Grammar
import PredicateSql.Proofs.Outcomes

/-!
# What the parser reads is derived

`Gives.derives`: where the parser reads a condition from the front of the tokens, what it has read
derives that condition, with the count of `?` before and behind it. The lemmas follow the levels of
the parser, from single operands down to `OR`.
-/

namespace PredicateSql.Parser

variable {n k k' : Nat} {inner : Inner n} {ts rest : List Token} {tree : Tree}

section Readings

variable {α β : Type} {p q : List Token → Prop}

theorem gives_bind {x : Except Failure (α × Nat × { rest : List Token // p rest })}
    {f : α × Nat × { rest : List Token // p rest } →
      Except Failure (β × Nat × { rest : List Token // q rest })}
    {b : β} (h : Gives (x >>= f) b k rest) :
    ∃ a l us, ∃ hu : p us, Gives x a l us ∧ Gives (f (a, l, ⟨us, hu⟩)) b k rest := by
  obtain ⟨hr, h⟩ := h
  obtain ⟨⟨a, l, us, hu⟩, hx, h⟩ := bind_eq_ok.1 h
  exact ⟨a, l, us, hu, ⟨hu, hx⟩, ⟨hr, h⟩⟩

theorem gives_pure {a b : α} {l : Nat} {us : List Token} {hu : p us}
    (h : Gives (pure (a, l, ⟨us, hu⟩) : Except Failure (α × Nat × { rest : List Token // p rest }))
      b k rest) : a = b ∧ l = k ∧ us = rest := by
  obtain ⟨_, h⟩ := h
  cases h
  exact ⟨rfl, rfl, rfl⟩

end Readings

theorem eq_of_expect {t : Token} {u : Unit} (h : Gives (expect t k ts) u k' rest) :
    ts = t :: rest ∧ k = k' := by
  obtain ⟨_, h⟩ := h
  cases ts with
  | nil => cases h
  | cons t' ts =>
    simp only [expect] at h
    split at h
    next heq =>
      cases h
      exact ⟨by rw [heq], rfl⟩
    next => cases h

theorem eq_of_identifier {name : String} (h : Gives (identifier k ts) name k' rest) :
    ts = .identifier name :: rest ∧ k = k' := by
  obtain ⟨_, h⟩ := h
  unfold identifier at h
  split at h
  next =>
    cases h
    exact ⟨rfl, rfl⟩
  next => cases h

/-- Whatever the level gives, the tokens it has read derive it. -/
def Sound (s : Strength) (level : Level n) : Prop :=
  ∀ ⦃k ts h tree k' rest⦄, Gives (level k ts h) tree k' rest →
    ∃ us, ts = us ++ rest ∧ Derives s k us tree k'

def InnerSound (inner : Inner n) : Prop :=
  ∀ ⦃k ts h tree k' rest⦄, Gives (inner k ts h) tree k' rest →
    ∃ us, ts = us ++ rest ∧ Derives .disjunction k us tree k'

-- ---------------------------------------------------------------------------
-- Chains
-- ---------------------------------------------------------------------------

section Chains

variable {ω : Type} {op? : Token → Option ω} {node : ω → Tree → Tree → Tree} {item : Level n}
  {s s' : Strength}

theorem chainFrom_cases {left : Tree} {hts : ts.length ≤ n}
    (h : Gives (chainFrom op? node item left k ts hts) tree k' rest) :
    (tree = left ∧ k = k' ∧ ts = rest) ∨
      ∃ t op us right l vs, ∃ (hus : us.length ≤ n) (hvs : vs.length ≤ n), ts = t :: us ∧
        op? t = some op ∧ Gives (item k us hus) right l vs ∧
        Gives (chainFrom op? node item (node op left right) l vs hvs) tree k' rest := by
  obtain ⟨_, h⟩ := h
  cases ts with
  | nil =>
    rw [chainFrom] at h
    cases h
    exact .inl ⟨rfl, rfl, rfl⟩
  | cons t us =>
    rw [chainFrom] at h
    split at h
    next =>
      cases h
      exact .inl ⟨rfl, rfl, rfl⟩
    next op hop =>
      obtain ⟨right, l, vs, _, hitem, h⟩ := gives_bind ⟨_, h⟩
      obtain ⟨tree, k', rest, _, hchain, h⟩ := gives_bind h
      obtain ⟨rfl, rfl, rfl⟩ := gives_pure h
      exact .inr ⟨t, op, us, right, l, vs, _, _, rfl, hop, hitem, hchain⟩

/-- The operators behind `left` make what has been read longer, up to the condition at the end. -/
theorem chainFrom_derives (hitem : Sound s' item)
    (hrule : ∀ {t op k l m ts us left right}, op? t = some op → Derives s k ts left l →
      Derives s' l us right m → Derives s k (ts ++ t :: us) (node op left right) m)
    {left : Tree} {k₀ : Nat} {before : List Token} {hts : ts.length ≤ n}
    (hleft : Derives s k₀ before left k)
    (h : Gives (chainFrom op? node item left k ts hts) tree k' rest) :
    ∃ us, ts = us ++ rest ∧ Derives s k₀ (before ++ us) tree k' := by
  induction hlength : ts.length using Nat.strong_induction_on generalizing ts left before k with
  | _ length ih =>
    subst hlength
    rcases chainFrom_cases h with
      ⟨rfl, rfl, rfl⟩ | ⟨t, op, us, right, l, vs, _, _, rfl, hop, hright, hrest⟩
    · exact ⟨[], rfl, by simpa using hleft⟩
    · obtain ⟨ws, rfl, hws⟩ := hitem hright
      have hlt : vs.length < (t :: (ws ++ vs)).length := by simp
      obtain ⟨us, rfl, hus⟩ := ih _ hlt (hrule hop hleft hws) hrest rfl
      exact ⟨t :: (ws ++ us), by simp, by simpa using hus⟩

theorem chain_sound (hitem : Sound s' item)
    (hfirst : ∀ {k k' ts tree}, Derives s' k ts tree k' → Derives s k ts tree k')
    (hrule : ∀ {t op k l m ts us left right}, op? t = some op → Derives s k ts left l →
      Derives s' l us right m → Derives s k (ts ++ t :: us) (node op left right) m) :
    Sound s (chain op? node item) := by
  intro k ts hts tree k' rest h
  obtain ⟨left, l, us, _, hleft, h⟩ := gives_bind h
  obtain ⟨tree, k', rest, _, hchain, h⟩ := gives_bind h
  obtain ⟨rfl, rfl, rfl⟩ := gives_pure h
  obtain ⟨ws, rfl, hws⟩ := hitem hleft
  obtain ⟨vs, rfl, hvs⟩ := chainFrom_derives hitem hrule (hfirst hws) hchain
  exact ⟨ws ++ vs, by simp, hvs⟩

end Chains

-- ---------------------------------------------------------------------------
-- Levels
-- ---------------------------------------------------------------------------

theorem prefixed_sound {s s' : Strength} {t : Token} {node : Tree → Tree} {level item : Level n}
    (hitem : Sound s' item)
    (hfirst : ∀ {k k' ts tree}, Derives s' k ts tree k' → Derives s k ts tree k')
    (hrule : ∀ {k k' ts tree}, Derives s k ts tree k' → Derives s k (t :: ts) (node tree) k')
    (hstop : ∀ {k ts hts}, (∀ us, ts ≠ t :: us) → level k ts hts = item k ts hts)
    (hstep : ∀ {k ts hts tree k' rest}, Gives (level k (t :: ts) hts) tree k' rest →
      ∃ operand, node operand = tree ∧
        Gives (level k ts (Nat.le_of_succ_le hts)) operand k' rest) :
    Sound s level := by
  intro k ts hts tree k' rest h
  induction ts generalizing tree with
  | nil =>
    rw [hstop (by simp)] at h
    obtain ⟨us, hus, htree⟩ := hitem h
    exact ⟨us, hus, hfirst htree⟩
  | cons t' ts ih =>
    by_cases ht : t' = t
    · subst ht
      obtain ⟨operand, rfl, hoperand⟩ := hstep h
      obtain ⟨us, hus, hoperand⟩ := ih hoperand
      exact ⟨t' :: us, by rw [hus]; rfl, hrule hoperand⟩
    · rw [hstop (by simp [ht])] at h
      obtain ⟨us, hus, htree⟩ := hitem h
      exact ⟨us, hus, hfirst htree⟩

section Levels

variable (hinner : InnerSound inner)
include hinner

theorem primary_sound : Sound .primary (primary inner) := by
  intro k ts hts tree k' rest h
  unfold primary at h
  split at h
  next =>
    obtain ⟨_, h⟩ := h
    cases h
  next =>
    obtain ⟨tree, l, us, _, htree, h⟩ := gives_bind h
    obtain ⟨_, l', vs, _, hexpect, h⟩ := gives_bind h
    obtain ⟨rfl, rfl, rfl⟩ := gives_pure h
    obtain ⟨ws, rfl, hws⟩ := hinner htree
    obtain ⟨rfl, rfl⟩ := eq_of_expect hexpect
    exact ⟨_, by simp, .parens hws⟩
  next t us _ _ =>
    split at h
    next hatom =>
      obtain ⟨rfl, rfl, rfl⟩ := gives_pure h
      exact ⟨[t], rfl, .atom hatom⟩
    next =>
      obtain ⟨_, h⟩ := h
      cases h

theorem unary_sound : Sound .unary (unary inner) := by
  refine prefixed_sound (primary_sound hinner) .ofPrimary .negate ?_ ?_
  · intro k ts hts hne
    rw [unary]
    exact fun us _ heq _ => hne us heq
  · intro k ts hts tree k' rest h
    obtain ⟨operand, l, us, _, hoperand, h⟩ := gives_bind h
    obtain ⟨rfl, rfl, rfl⟩ := gives_pure h
    exact ⟨operand, rfl, hoperand⟩

theorem product_sound : Sound .product (product inner) :=
  chain_sound (unary_sound hinner) .ofUnary .product

theorem sum_sound : Sound .sum (sum inner) :=
  chain_sound (product_sound hinner) .ofProduct .sum

theorem comparison_sound : Sound .comparison (comparison inner) := by
  intro k ts hts tree k' rest h
  obtain ⟨left, l, us, hu, hleft, h⟩ := gives_bind h
  obtain ⟨ws, rfl, hws⟩ := sum_sound hinner hleft
  simp only at h
  split at h
  next =>
    obtain ⟨_, l', vs, _, hexpect, h⟩ := gives_bind h
    obtain ⟨rfl, rfl, rfl⟩ := gives_pure h
    obtain ⟨rfl, rfl⟩ := eq_of_expect hexpect
    exact ⟨_, by simp, .isNotNull hws⟩
  next =>
    obtain ⟨_, l', vs, _, hexpect, h⟩ := gives_bind h
    obtain ⟨rfl, rfl, rfl⟩ := gives_pure h
    obtain ⟨rfl, rfl⟩ := eq_of_expect hexpect
    exact ⟨_, by simp, .isNull hws⟩
  next =>
    obtain ⟨rfl, rfl, rfl⟩ := gives_pure h
    exact ⟨ws, rfl, .ofSum hws⟩
  next =>
    split at h
    next =>
      obtain ⟨rfl, rfl, rfl⟩ := gives_pure h
      exact ⟨ws, rfl, .ofSum hws⟩
    next op hop =>
      obtain ⟨right, l', xs, _, hright, h⟩ := gives_bind h
      obtain ⟨rfl, rfl, rfl⟩ := gives_pure h
      obtain ⟨us, rfl, hus⟩ := sum_sound hinner hright
      exact ⟨_, by simp, .compare hop hws hus⟩

theorem negation_sound : Sound .negation (negation inner) := by
  refine prefixed_sound (comparison_sound hinner) .ofComparison .not ?_ ?_
  · intro k ts hts hne
    rw [negation]
    exact fun us _ heq _ => hne us heq
  · intro k ts hts tree k' rest h
    obtain ⟨operand, l, us, _, hoperand, h⟩ := gives_bind h
    obtain ⟨rfl, rfl, rfl⟩ := gives_pure h
    exact ⟨operand, rfl, hoperand⟩

theorem conjunction_sound : Sound .conjunction (conjunction inner) :=
  chain_sound (negation_sound hinner) .ofNegation .and

theorem disjunction_sound : Sound .disjunction (disjunction inner) :=
  chain_sound (conjunction_sound hinner) .ofConjunction .or

end Levels

theorem Gives.derives (h : Gives (condition k ts) tree k' rest) :
    ∃ us, ts = us ++ rest ∧ Derives .disjunction k us tree k' := by
  induction hlength : ts.length using Nat.strong_induction_on generalizing ts tree k k' rest with
  | _ length ih =>
    subst hlength
    rw [condition] at h
    exact disjunction_sound (fun k us hus tree k' rest h => ih _ hus h rfl) h

end PredicateSql.Parser
