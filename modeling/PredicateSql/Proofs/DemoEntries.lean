import PredicateSql.Demo
import PredicateSql.Proofs.Notes
import PredicateSql.Proofs.Reading

/-!
# The demo's entries

For every highest number: which entries there are and in which order (`mem_entries`,
`pairwise_entries`), that they can all be loaded (`load_holds`), and of which of them the seven
predicates are true (`found_scenarios`).
-/

namespace PredicateSql.Demo

-- ---------------------------------------------------------------------------
-- Entries
-- ---------------------------------------------------------------------------

section Entries

variable (highest : Int32)

def numbers : List Nat :=
  (List.range (highest.toInt + 1).toNat).filter (· ≠ 3)

theorem mem_numbers {n : Nat} : n ∈ numbers highest ↔ (n : Int) ≤ highest.toInt ∧ n ≠ 3 := by
  rw [numbers, List.mem_filter, List.mem_range, decide_eq_true_eq]
  refine and_congr_left fun _ => ?_
  omega

theorem toInt_filler {n : Nat} (h : n ∈ numbers highest) : (filler n).number.toInt = n := by
  have hle := ((mem_numbers highest).1 h).1
  have hlt := highest.toInt_lt
  exact Int32.toInt_ofNat_of_lt (by omega)

theorem entries_perm : (entries highest).Perm ((numbers highest).map filler ++ [special]) :=
  List.mergeSort_perm _ _

theorem mem_entries (e : Entry) :
    e ∈ entries highest ↔ e = special ∨
      ∃ i : Int32, 0 ≤ i ∧ i ≤ highest ∧ i ≠ 3 ∧ e = ⟨i, false, toString i.toInt⟩ := by
  rw [(entries_perm highest).mem_iff, List.mem_append, List.mem_singleton, List.mem_map, or_comm]
  refine or_congr_right ?_
  constructor
  · rintro ⟨n, hn, rfl⟩
    have hnumber := toInt_filler highest hn
    obtain ⟨hle, hne⟩ := (mem_numbers highest).1 hn
    refine ⟨(filler n).number, ?_, ?_, ?_, ?_⟩
    · rw [Int32.le_iff_toInt_le, hnumber]
      exact Int.natCast_nonneg n
    · rw [Int32.le_iff_toInt_le, hnumber]
      exact hle
    · intro h
      rw [h] at hnumber
      exact hne (Int.ofNat_inj.1 hnumber.symm)
    · rw [hnumber]
      rfl
  · rintro ⟨i, hlow, hhigh, hne, rfl⟩
    rw [Int32.le_iff_toInt_le] at hlow hhigh
    obtain ⟨n, hn⟩ := Int.eq_ofNat_of_zero_le hlow
    have hi : Int32.ofNat n = i := by
      rw [← Int32.ofInt_eq_ofNat, ← hn, Int32.ofInt_toInt]
    refine ⟨n, (mem_numbers highest).2 ⟨hn ▸ hhigh, ?_⟩, ?_⟩
    · rintro rfl
      exact hne hi.symm
    · rw [filler, hi, hn]
      rfl

theorem nodup_numbers : (((numbers highest).map filler ++ [special]).map Entry.number).Nodup := by
  rw [List.map_append, List.map_map, List.nodup_append]
  refine ⟨List.Nodup.map_on ?_ (List.nodup_range.filter _), List.nodup_singleton _, ?_⟩
  · intro m hm n hn heq
    have hm' := toInt_filler highest hm
    rw [show (filler m).number = (filler n).number from heq, toInt_filler highest hn] at hm'
    exact Int.ofNat_inj.1 hm'.symm
  · intro number hnumber three hthree
    obtain ⟨n, hn, rfl⟩ := List.mem_map.1 hnumber
    obtain rfl := List.mem_singleton.1 hthree
    intro heq
    have hn' := toInt_filler highest hn
    rw [show (filler n).number = 3 from heq] at hn'
    exact ((mem_numbers highest).1 hn).2 (Int.ofNat_inj.1 hn'.symm)

theorem pairwise_entries : (entries highest).Pairwise (·.number < ·.number) := by
  have htrans (a b c : Entry) (hab : decide (a.number ≤ b.number) = true)
      (hbc : decide (b.number ≤ c.number) = true) : decide (a.number ≤ c.number) = true :=
    decide_eq_true (Int32.le_trans (of_decide_eq_true hab) (of_decide_eq_true hbc))
  have htotal (a b : Entry) :
      (decide (a.number ≤ b.number) || decide (b.number ≤ a.number)) = true := by
    simpa using Int32.le_total a.number b.number
  have hsorted : (entries highest).Pairwise fun a b => decide (a.number ≤ b.number) = true :=
    List.pairwise_mergeSort htrans htotal _
  -- No number occurs twice, so sorting by number leaves a strict order.
  have hdistinct : (entries highest).Pairwise fun a b => a.number ≠ b.number :=
    List.pairwise_map.1 (((entries_perm highest).map Entry.number).nodup_iff.2
      (nodup_numbers highest))
  exact hsorted.imp₂ (fun a b hle hne => Int32.lt_of_le_of_ne (of_decide_eq_true hle) hne) hdistinct

theorem nodup_entries : (entries highest).Nodup :=
  (pairwise_entries highest).imp fun hlt heq => Int32.ne_of_lt hlt (congrArg Entry.number heq)

theorem special_mem_entries : special ∈ entries highest :=
  (mem_entries highest special).2 (.inl rfl)

theorem accepts_record (e : Entry) : testType.table.accepts e.record = true := rfl

theorem load_holds : ∃ db log, (load highest).run.run ⟨.empty, []⟩ = (.ok (), ⟨db, log⟩) ∧
    db.Holds testType.table ((entries highest).map Entry.record) ∧
    log.filter Event.isInfo = [] := by
  have hcreate : (Database.create testType.table).run.run ⟨.empty, []⟩ =
      (.ok (), ⟨⟨[("TestType", .ofTable testType.table)]⟩, [.tableCreated "TestType"]⟩) := rfl
  have hrows : ∀ row ∈ (entries highest).map Entry.record, testType.table.accepts row = true := by
    intro row hrow
    obtain ⟨e, -, rfl⟩ := List.mem_map.1 hrow
    exact accepts_record e
  have hholds : Database.Holds testType.table ⟨[("TestType", .ofTable testType.table)]⟩ [] :=
    .create (Database.Action.leaves_iff.2 ⟨_, hcreate⟩)
  obtain ⟨db, hinsert, hholds⟩ := hholds.insertAll hrows [.tableCreated "TestType"]
  refine ⟨db, [.tableCreated "TestType"], ?_, hholds, rfl⟩
  rw [load, run_bind_ok hcreate, ← hinsert]
  simp only [List.forM_eq_forM, List.forM_map]

end Entries

-- ---------------------------------------------------------------------------
-- Predicates
-- ---------------------------------------------------------------------------

namespace Scenario

def scope (s : Scenario) : Scope :=
  ⟨testType.table, testType.table.record, s.predicate.parameter⟩

def reading (s : Scenario) (e : Entry) : Except EvalError Truth :=
  s.predicate.body.reading s.scope e.record

def found (highest : Int32) (s : Scenario) : List Entry :=
  (entries highest).filter fun e => s.predicate.body.isTrueOn s.scope e.record

end Scenario

def conditions : List (Entry → Bool) :=
  [ fun e => decide (2 < e.number) && decide (e.number < 4),
    fun e => decide (e.number = 3) || decide (e.number < 0),
    fun _ => true,
    fun e => e.flag && e.text == "4",
    fun e => e.flag,
    fun _ => true,
    fun e => !e.flag ]

theorem reading_scenarios :
    List.Forall₂ (fun s holds => ∀ e, s.reading e = .ok (some (holds e))) scenarios conditions := by
  have hlt (n k : Int32) : (Ord.compare n k).isLT = decide (n < k) := by
    rw [Bool.eq_iff_iff]
    simp [Std.compare_eq_lt]
  have hgt (n k : Int32) : (Ord.compare n k).isGT = decide (k < n) := by
    rw [Bool.eq_iff_iff]
    simp [Std.compare_eq_gt]
  have heq (n k : Int32) : (Ord.compare n k).isEq = decide (n = k) := by
    rw [Bool.eq_iff_iff]
    simp
  have htext (text : String) : (Ord.compare text "4").isEq = (text == "4") := by
    rw [Bool.eq_iff_iff]
    simp
  simp only [scenarios, conditions, List.forall₂_cons, List.forall₂_nil_left_iff, and_true]
  refine ⟨?range, ?impossible, ?folded, ?captured, ?comparison, ?trueCapture, ?falseCapture⟩ <;>
    rintro ⟨n, flag, text⟩
  case range =>
    show LogicOp.outcome .and (.ok (some (Ord.compare n 2).isGT))
      (.ok (some (Ord.compare n 4).isLT)) = _
    rw [LogicOp.outcome_some, hgt, hlt]
    rfl
  case impossible =>
    show LogicOp.outcome .or (.ok (some (Ord.compare n 3).isEq))
      (.ok (some (Ord.compare n 0).isLT)) = _
    rw [LogicOp.outcome_some, heq, hlt]
    rfl
  case folded =>
    show LogicOp.outcome .or (.ok (some (Ord.compare n 3).isEq)) (.ok (some true)) = _
    rw [LogicOp.outcome_some, LogicOp.apply, Bool.or_true]
  case captured =>
    show LogicOp.outcome .and (.ok (some flag)) (.ok (some (Ord.compare text "4").isEq)) = _
    rw [LogicOp.outcome_some, htext]
    rfl
  case comparison => cases flag <;> rfl
  case trueCapture => cases flag <;> rfl
  case falseCapture => cases flag <;> rfl

theorem exists_reading {s : Scenario} (hs : s ∈ scenarios) (e : Entry) :
    ∃ b, s.reading e = .ok (some b) := by
  obtain ⟨i, rfl⟩ := List.mem_iff_get.1 hs
  have hi : i < conditions.length := lt_of_lt_of_eq i.2 reading_scenarios.length_eq
  exact ⟨_, reading_scenarios.get i.2 hi e⟩

section Found

variable (highest : Int32)

theorem found_eq_filter : scenarios.map (Scenario.found highest) =
    conditions.map fun holds => (entries highest).filter holds := by
  rw [← List.forall₂_eq_eq_eq, List.forall₂_map_left_iff, List.forall₂_map_right_iff]
  refine reading_scenarios.imp fun s holds h => ?_
  exact List.filter_congr fun e _ => Expr.isTrueOn_of_reading (h e)

/-- Of the entries, a condition holds of all, of the special one, or of the others. -/
theorem conditions_entries {e : Entry} (he : e ∈ entries highest) :
    conditions.map (fun holds => holds e) =
      [e == special, e == special, true, e == special, e == special, true, e != special] := by
  rcases (mem_entries highest e).1 he with rfl | ⟨i, hlow, -, hne, rfl⟩
  · decide
  · -- A filler is not flagged, so its text does not matter, and its number is not between 2 and 4.
    have hspecial : ((⟨i, false, toString i.toInt⟩ : Entry) == special) = false := by
      rw [beq_eq_false_iff_ne]
      intro h
      cases h
    have hbetween : (decide (2 < i) && decide (i < 4)) = false := by
      have hne' : i.toInt ≠ 3 := fun h => hne (Int32.toInt_inj.1 h)
      rw [Bool.and_eq_false_iff, decide_eq_false_iff_not, decide_eq_false_iff_not,
        Int32.lt_iff_toInt_lt, Int32.lt_iff_toInt_lt]
      show ¬(2 : Int) < i.toInt ∨ ¬i.toInt < 4
      omega
    have hnegative : decide (i < 0) = false := by
      rw [decide_eq_false_iff_not, Int32.not_lt]
      exact hlow
    simp only [conditions, List.map_cons, List.map_nil, hspecial, hbetween, hnegative, hne, bne]
    rfl

theorem found_scenarios : scenarios.map (Scenario.found highest) =
    [[special], [special], entries highest, [special], [special], entries highest,
      (entries highest).erase special] := by
  have hspecial {holds : Entry → Bool} (h : ∀ e ∈ entries highest, holds e = (e == special)) :
      (entries highest).filter holds = [special] := by
    rw [List.filter_congr h, List.filter_beq,
      List.count_eq_one_of_mem (nodup_entries highest) (special_mem_entries highest)]
    rfl
  have hothers {holds : Entry → Bool} (h : ∀ e ∈ entries highest, holds e = (e != special)) :
      (entries highest).filter holds = (entries highest).erase special := by
    rw [List.filter_congr h, (nodup_entries highest).erase_eq_filter]
  have hholds := fun e (he : e ∈ entries highest) => conditions_entries highest he
  rw [found_eq_filter]
  simp only [conditions, List.map_cons, List.map_nil, List.cons.injEq, and_true] at hholds ⊢
  refine ⟨hspecial fun e he => (hholds e he).1, hspecial fun e he => (hholds e he).2.1,
    List.filter_eq_self.2 fun _ _ => rfl, ?_, ?_, List.filter_eq_self.2 fun _ _ => rfl, ?_⟩
  · exact hspecial fun e he => (hholds e he).2.2.2.1
  · exact hspecial fun e he => (hholds e he).2.2.2.2.1
  · exact hothers fun e he => (hholds e he).2.2.2.2.2.2

theorem length_found : scenarios.map (fun s => (s.found highest).length) =
    [1, 1, (entries highest).length, 1, 1, (entries highest).length,
      (entries highest).length - 1] := by
  have hlengths := congrArg (List.map List.length) (found_scenarios highest)
  rw [List.map_map] at hlengths
  refine hlengths.trans ?_
  simp [List.length_erase_of_mem (special_mem_entries highest)]

theorem first_le_of_mem_found {s : Scenario} {first : Entry}
    (hfirst : (s.found highest).head? = some first) :
    ∀ e ∈ s.found highest, first.number ≤ e.number := by
  have hpairwise : (s.found highest).Pairwise (·.number < ·.number) :=
    (pairwise_entries highest).filter _
  cases hfound : s.found highest with
  | nil => simp
  | cons e es =>
    rw [hfound] at hfirst hpairwise
    obtain rfl : e = first := by simpa using hfirst
    intro e' he'
    rcases List.mem_cons.1 he' with rfl | he'
    · exact Int32.le_refl _
    · exact Int32.le_of_lt ((List.pairwise_cons.1 hpairwise).1 e' he')

end Found

end PredicateSql.Demo
