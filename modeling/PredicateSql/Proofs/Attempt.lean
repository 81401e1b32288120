import Mathlib

/-!
# Readers with a position

A reader that moves a position through a fixed input, and is given a limit on how often its loops go
round and how deep its calls nest. `Ends`: where such a reader ends.
-/

namespace PredicateSql

/-- An outcome, or a failure and the position then. There is neither where the limit is reached. -/
abbrev Attempt (ε : Type) : Type → Type :=
  ExceptT (ε × Nat) Option

namespace Attempt

variable {ε α β : Type} {high : Nat} {Q : α → Nat → Prop} {R : β → Nat → Prop}
  {x : Attempt ε (α × Nat)}

/-- Where the attempt ends, it has not moved past `high`; where it succeeds, `Q` holds besides. -/
def Ends (high : Nat) (Q : α → Nat → Prop) (x : Attempt ε (α × Nat)) : Prop :=
  match x.run with
  | some (.ok (a, q)) => Q a q ∧ q ≤ high
  | some (.error (_, q)) => q ≤ high
  | none => True

theorem ends_pure {a : α} {q : Nat} (h : Q a q) (hq : q ≤ high) :
    Ends high Q (pure (a, q) : Attempt ε (α × Nat)) :=
  ⟨h, hq⟩

theorem ends_throw {e : ε} {q : Nat} (hq : q ≤ high) :
    Ends high Q (throw (e, q) : Attempt ε (α × Nat)) :=
  hq

theorem ends_limit : Ends high Q (.mk none : Attempt ε (α × Nat)) :=
  trivial

theorem Ends.of_eq_pure {a : α} {q : Nat} (h : Ends high Q x) (hx : x = pure (a, q)) :
    Q a q ∧ q ≤ high := by
  subst hx
  exact h

theorem Ends.of_eq_throw {e : ε} {q : Nat} (h : Ends high Q x) (hx : x = throw (e, q)) :
    q ≤ high := by
  subst hx
  exact h

theorem Ends.bind {f : α × Nat → Attempt ε (β × Nat)} (hx : Ends high Q x)
    (hf : ∀ a q, Q a q → q ≤ high → Ends high R (f (a, q))) : Ends high R (x >>= f) := by
  rcases x with _ | (⟨e, q⟩ | ⟨a, q⟩)
  · exact ends_limit
  · exact ends_throw hx
  · exact hf a q hx.1 hx.2

theorem Ends.mono {Q' : α → Nat → Prop} (h : Ends high Q x) (hQ : ∀ a q, Q a q → Q' a q) :
    Ends high Q' x := by
  rcases x with _ | (⟨e, q⟩ | ⟨a, q⟩)
  · exact h
  · exact h
  · exact ⟨hQ a q h.1, h.2⟩

end Attempt

end PredicateSql
