import Mathlib

/-!
# Outcomes and lists

Rules for computations that may fail, alone (`Except`) and with a state that a failure leaves as it
then is (`ExceptT` over `StateM`), and for lists that are walked through by them.
-/

namespace PredicateSql

section Except

variable {ε ε' α β : Type}

theorem ok_bind {a : α} {f : α → Except ε β} : Except.ok a >>= f = f a := rfl

theorem mapError_ok {a : α} {f : ε → ε'} : (Except.ok a).mapError f = .ok a := rfl

theorem bind_eq_ok {x : Except ε α} {f : α → Except ε β} {b : β} :
    x >>= f = .ok b ↔ ∃ a, x = .ok a ∧ f a = .ok b := by
  cases x <;> simp [bind, Except.bind]

theorem map_eq_ok {x : Except ε α} {f : α → β} {b : β} :
    x.map f = .ok b ↔ ∃ a, x = .ok a ∧ f a = b := by
  cases x <;> simp [Except.map]

theorem mapError_eq_ok {x : Except ε α} {f : ε → ε'} {a : α} :
    x.mapError f = .ok a ↔ x = .ok a := by
  cases x <;> simp [Except.mapError]

theorem mapError_bind {x : Except ε α} {f : α → Except ε β} {g : ε → ε'} :
    (x >>= f).mapError g = x.mapError g >>= fun a => (f a).mapError g := by
  cases x <;> rfl

theorem pure_eq_ok {a b : α} : (pure a : Except ε α) = .ok b ↔ a = b := by
  simp [pure, Except.pure]

theorem bind_eq_error {x : Except ε α} {f : α → Except ε β} {e : ε} :
    x >>= f = .error e ↔ x = .error e ∨ ∃ a, x = .ok a ∧ f a = .error e := by
  cases x <;> simp [bind, Except.bind]

theorem map_eq_error {x : Except ε α} {f : α → β} {e : ε} : x.map f = .error e ↔ x = .error e := by
  cases x <;> simp [Except.map]

theorem mapError_eq_error {x : Except ε α} {f : ε → ε'} {e : ε'} :
    x.mapError f = .error e ↔ ∃ e', x = .error e' ∧ f e' = e := by
  cases x <;> simp [Except.mapError]

end Except

-- ---------------------------------------------------------------------------
-- A state that survives a failure
-- ---------------------------------------------------------------------------

section State

variable {ε ε' σ α β : Type} {x : ExceptT ε (StateM σ) α} {s s' : σ}

theorem run_bind_ok {f : α → ExceptT ε (StateM σ) β} {a : α} (h : x.run.run s = (.ok a, s')) :
    (x >>= f).run.run s = (f a).run.run s' := by
  rw [ExceptT.run_bind, StateT.run_bind, h]
  rfl

theorem run_bind_error {f : α → ExceptT ε (StateM σ) β} {e : ε}
    (h : x.run.run s = (.error e, s')) : (x >>= f).run.run s = (.error e, s') := by
  rw [ExceptT.run_bind, StateT.run_bind, h]
  rfl

theorem run_bind_pure (f : α → β) : (x >>= fun a => pure (f a)).run.run s =
    ((x.run.run s).1.map f, (x.run.run s).2) := by
  cases hrun : x.run.run s with
  | mk result s' =>
    cases result with
    | ok a => exact run_bind_ok hrun
    | error e => exact run_bind_error hrun

theorem run_get : (get : ExceptT ε (StateM σ) σ).run.run s = (.ok s, s) := rfl

theorem run_liftExcept (y : Except ε α) :
    (liftM y : ExceptT ε (StateM σ) α).run.run s = (y, s) := by
  cases y <;> rfl

theorem run_adapt (f : ε → ε') : (x.adapt f).run.run s =
    ((x.run.run s).1.mapError f, (x.run.run s).2) := rfl

end State

-- ---------------------------------------------------------------------------
-- Lists
-- ---------------------------------------------------------------------------

section Lists

variable {α β ε : Type} {R : α → β → Prop} {l : List α} {l' : List β}

theorem filterMap_range_getElem? (l : List α) : (List.range l.length).filterMap (l[·]?) = l := by
  induction l with
  | nil => rfl
  | cons a l ih => simpa [List.range_succ_eq_map, List.filterMap_map, Function.comp_def] using ih

theorem length_filterMap_getElem? {indices : List Nat} (h : ∀ i ∈ indices, i < l.length) :
    (indices.filterMap (l[·]?)).length = indices.length := by
  induction indices with
  | nil => rfl
  | cons i indices ih =>
    simp [h i List.mem_cons_self, ih fun j hj => h j (List.mem_cons_of_mem _ hj)]

theorem forall₂_getElem? (h : List.Forall₂ R l l') {i : Nat} {a : α} {b : β} (ha : l[i]? = some a)
    (hb : l'[i]? = some b) : R a b := by
  induction h generalizing i with
  | nil => simp at ha
  | cons hhead _ ih =>
    cases i with
    | zero =>
      cases ha
      cases hb
      exact hhead
    | succ i => exact ih ha hb

theorem forall₂_filterMap_getElem? (h : List.Forall₂ R l l') (indices : List Nat) :
    List.Forall₂ R (indices.filterMap (l[·]?)) (indices.filterMap (l'[·]?)) := by
  have hlength := h.length_eq
  induction indices with
  | nil => exact .nil
  | cons i indices ih =>
    by_cases hi : i < l.length
    · have hi' : i < l'.length := hlength ▸ hi
      have hget : R l[i] l'[i] :=
        forall₂_getElem? h (List.getElem?_eq_getElem hi) (List.getElem?_eq_getElem hi')
      simpa [hi, hi'] using ⟨hget, ih⟩
    · have hi' : ¬ i < l'.length := hlength ▸ hi
      simpa [hi, hi'] using ih

theorem forall₂_filter {p : α → Bool} {q : β → Bool} (h : List.Forall₂ R l l')
    (hpq : ∀ a, ∀ b ∈ l', R a b → p a = true → q b = true) :
    ∃ kept, kept.Sublist (l'.filter q) ∧ List.Forall₂ R (l.filter p) kept := by
  induction h with
  | nil => exact ⟨[], .refl _, .nil⟩
  | @cons a b l l' hab _ ih =>
    obtain ⟨kept, hsublist, hkept⟩ := ih fun a' b' hb' => hpq a' b' (List.mem_cons_of_mem _ hb')
    by_cases ha : p a = true
    · have hb := hpq a b List.mem_cons_self hab ha
      refine ⟨b :: kept, ?_, ?_⟩
      · simpa [hb] using hsublist
      · simpa [ha] using ⟨hab, hkept⟩
    · refine ⟨kept, hsublist.trans ((List.sublist_cons_self b l').filter q), ?_⟩
      simpa [ha] using hkept

end Lists

-- ---------------------------------------------------------------------------
-- Lists walked through
-- ---------------------------------------------------------------------------

section Walks

variable {α β ε : Type} {l kept : List α} {p : α → Except ε Bool} {e : ε}

theorem exists_of_mapM_eq_error {f : α → Except ε β} (h : l.mapM f = .error e) :
    ∃ a ∈ l, f a = .error e := by
  induction l with
  | nil => cases h
  | cons a l ih =>
    rw [List.mapM_cons] at h
    rcases bind_eq_error.1 h with h | ⟨b, -, h⟩
    · exact ⟨a, List.mem_cons_self, h⟩
    rcases bind_eq_error.1 h with h | ⟨bs, -, h⟩
    · obtain ⟨a', ha', herror⟩ := ih h
      exact ⟨a', List.mem_cons_of_mem _ ha', herror⟩
    · cases h

theorem filterAuxM_ok {q : α → Bool} (h : ∀ a ∈ l, p a = .ok (q a)) (acc : List α) :
    l.filterAuxM p acc = .ok ((l.filter q).reverse ++ acc) := by
  induction l generalizing acc with
  | nil => rfl
  | cons a l ih =>
    have htail := ih fun b hb => h b (List.mem_cons_of_mem _ hb)
    rw [List.filterAuxM, h a List.mem_cons_self]
    cases hq : q a <;> simp [htail, hq, bind, Except.bind, cond]

theorem filterM_ok {q : α → Bool} (h : ∀ a ∈ l, p a = .ok (q a)) :
    l.filterM p = .ok (l.filter q) := by
  simp [List.filterM, filterAuxM_ok h, bind, Except.bind, pure, Except.pure]

theorem ok_of_filterAuxM {acc : List α} (h : l.filterAuxM p acc = .ok kept) :
    ∀ a ∈ l, ∃ b, p a = .ok b := by
  induction l generalizing acc with
  | nil => simp
  | cons a l ih =>
    rw [List.filterAuxM, bind_eq_ok] at h
    obtain ⟨b, hb, h⟩ := h
    rintro a' (_ | ⟨_, ha'⟩)
    · exact ⟨b, hb⟩
    · exact ih h a' ha'

theorem ok_of_filterM (h : l.filterM p = .ok kept) : ∀ a ∈ l, ∃ b, p a = .ok b := by
  obtain ⟨kept', haux, -⟩ := bind_eq_ok.1 h
  exact ok_of_filterAuxM haux

theorem getD_toOption_eq_true {x : Except ε Bool} :
    x.toOption.getD false = true ↔ x = .ok true := by
  cases x <;> simp [Except.toOption]

theorem filterM_eq_filter (h : l.filterM p = .ok kept) :
    kept = l.filter fun a => (p a).toOption.getD false := by
  have hp : ∀ a ∈ l, p a = .ok ((p a).toOption.getD false) := by
    intro a ha
    obtain ⟨b, hb⟩ := ok_of_filterM h a ha
    rw [hb]
    rfl
  rw [filterM_ok hp] at h
  exact (Except.ok.inj h).symm

theorem mem_of_filterM (h : l.filterM p = .ok kept) : ∀ a ∈ kept, a ∈ l ∧ p a = .ok true := by
  intro a ha
  rw [filterM_eq_filter h, List.mem_filter, getD_toOption_eq_true] at ha
  exact ha

theorem exists_of_filterAuxM_eq_error {acc : List α} (h : l.filterAuxM p acc = .error e) :
    ∃ a ∈ l, p a = .error e := by
  induction l generalizing acc with
  | nil => cases h
  | cons a l ih =>
    rw [List.filterAuxM] at h
    rcases bind_eq_error.1 h with h | ⟨b, -, h⟩
    · exact ⟨a, List.mem_cons_self, h⟩
    · obtain ⟨a', ha', herror⟩ := ih h
      exact ⟨a', List.mem_cons_of_mem _ ha', herror⟩

theorem exists_of_filterM_eq_error (h : l.filterM p = .error e) : ∃ a ∈ l, p a = .error e := by
  rcases bind_eq_error.1 h with h | ⟨kept, -, h⟩
  · exact exists_of_filterAuxM_eq_error h
  · cases h

variable {g : α → β} {f : α → Except ε (Option β)}

theorem map_filterAuxM
    (h : ∀ a ∈ l, f a = (p a).map fun keep => if keep then some (g a) else none) (acc : List α) :
    (l.filterAuxM p acc).map (fun kept => kept.reverse.map g) =
      (l.filterMapM f).map (acc.reverse.map g ++ ·) := by
  induction l generalizing acc with
  | nil => simp [List.filterAuxM, Except.map, pure, Except.pure]
  | cons a l ih =>
    have htail := ih fun b hb => h b (List.mem_cons_of_mem _ hb)
    rw [List.filterAuxM, List.filterMapM_cons, h a List.mem_cons_self]
    cases p a with
    | error e => rfl
    | ok keep =>
      simp only [ok_bind, Except.map]
      cases keep with
      | false => exact htail acc
      | true =>
        refine (htail (a :: acc)).trans ?_
        generalize (l.filterMapM f : Except ε (List β)) = kept
        cases kept <;> simp [Except.map, bind, Except.bind, pure, Except.pure]

theorem map_filterM
    (h : ∀ a ∈ l, f a = (p a).map fun keep => if keep then some (g a) else none) :
    List.map g <$> l.filterM p = l.filterMapM f := by
  have hmap := map_filterAuxM h []
  rw [List.filterM]
  generalize l.filterAuxM p [] = kept at hmap ⊢
  generalize (l.filterMapM f : Except ε (List β)) = mapped at hmap ⊢
  cases kept <;> cases mapped <;>
    simp_all [Functor.map, Except.map, bind, Except.bind, pure, Except.pure]

end Walks

end PredicateSql
