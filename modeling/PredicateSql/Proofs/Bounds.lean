import PredicateSql.Proofs.Store

/-!
# Selections within bounds

A stored table that only has rows it accepts (`StoredTable.WellFormed`). `StoredTable.guarded` is a
selection that fails where it would look beyond the end of a row or of the columns.
`guarded_eq_select`: on such tables it is the selection, so that no statement ever looks there.
-/

namespace PredicateSql

-- ---------------------------------------------------------------------------
-- Rows of a stored table
-- ---------------------------------------------------------------------------

namespace StoredTable

def WellFormed (st : StoredTable) : Prop :=
  ∀ row ∈ st.rows, st.Accepts row

theorem WellFormed.push {st : StoredTable} {row : List Value} (h : st.WellFormed)
    (hrow : st.Accepts row) : (st.push row).WellFormed := by
  intro row' hmem
  have hmem' : row' ∈ st.rows ∨ row' = row := by simpa using hmem
  rcases hmem' with hmem' | rfl
  · exact h row' hmem'
  · exact hrow

end StoredTable

-- ---------------------------------------------------------------------------
-- Selections that look at no index beyond the end
-- ---------------------------------------------------------------------------

section Lists

variable {α ε : Type}

def fetch (beyond : ε) (l : List α) (index : Nat) : Except ε α :=
  match l[index]? with
  | some a => .ok a
  | none => .error beyond

theorem fetch_of_lt (beyond : ε) {l : List α} {index : Nat} (h : index < l.length) :
    fetch beyond l index = .ok l[index] := by
  simp [fetch, h]

theorem mapM_fetch (beyond : ε) {l : List α} {indices : List Nat}
    (h : ∀ i ∈ indices, i < l.length) :
    indices.mapM (fetch beyond l) = .ok (indices.filterMap (l[·]?)) := by
  induction indices with
  | nil => rfl
  | cons i indices ih =>
    have hi := h i List.mem_cons_self
    rw [List.mapM_cons, fetch_of_lt beyond hi, ih fun j hj => h j (List.mem_cons_of_mem _ hj)]
    simp [hi, bind, Except.bind, pure, Except.pure]

end Lists

namespace StoredTable

variable {st : StoredTable}

/-- The meaning of columns and placeholders on a row, where an index beyond the row fails as
`beyond`. -/
def guardedEnv (beyond : ConditionError) (st : StoredTable) (parameters : List Parameter)
    (row : List Value) : Env Reference where
  column name := st.columnIndex name >>= fetch beyond row
  bound := Reference.bind parameters

def keeps (filter : Option (Condition Reference)) (env : Env Reference) :
    Except ConditionError Bool :=
  match filter with
  | none => .ok true
  | some c => c.selects env

/-- A selection made row by row, which stops with `beyond` at an index beyond the columns or beyond
the values of a row. -/
def guarded (beyond : ConditionError) (st : StoredTable) (s : Select Reference)
    (parameters : List Parameter) : Except ConditionError (List Row) := do
  let indices ← st.project s.projection
  let columns ← indices.mapM (fetch beyond st.columns)
  st.rows.filterMapM fun row => do
    if ← keeps s.filter (st.guardedEnv beyond parameters row) then
      return some ⟨columns.map (·.1), ← indices.mapM (fetch beyond row)⟩
    else
      return none

theorem lt_of_columnIndex {name : String} {index : Nat} (h : st.columnIndex name = .ok index) :
    index < st.columns.length := by
  unfold columnIndex at h
  split at h
  next hfind =>
    cases h
    exact (List.findIdx?_eq_some_iff_findIdx_eq.1 hfind).1
  next => cases h

theorem lt_of_mapM_columnIndex {names : List String} {indices : List Nat}
    (h : names.mapM st.columnIndex = .ok indices) : ∀ i ∈ indices, i < st.columns.length := by
  induction names generalizing indices with
  | nil =>
    cases h
    simp
  | cons name names ih =>
    simp only [List.mapM_cons, bind_eq_ok, pure_eq_ok] at h
    obtain ⟨index, hindex, rest, hrest, rfl⟩ := h
    intro i hi
    rcases List.mem_cons.1 hi with rfl | hi
    · exact lt_of_columnIndex hindex
    · exact ih hrest i hi

theorem lt_of_project {p : Projection} {indices : List Nat} (h : st.project p = .ok indices) :
    ∀ i ∈ indices, i < st.columns.length := by
  cases p with
  | all =>
    cases h
    simp
  | columns names => exact lt_of_mapM_columnIndex h

theorem guardedEnv_eq (beyond : ConditionError) (parameters : List Parameter) {row : List Value}
    (hrow : row.length = st.columns.length) :
    st.guardedEnv beyond parameters row = st.env parameters row := by
  have hcolumn : ∀ name, (st.guardedEnv beyond parameters row).column name =
      (st.env parameters row).column name := by
    intro name
    simp only [guardedEnv, env]
    cases hindex : st.columnIndex name with
    | error e => rfl
    | ok index =>
      have hlt : index < row.length := hrow ▸ lt_of_columnIndex hindex
      simp [fetch_of_lt beyond hlt, hlt, bind, Except.bind, pure, Except.pure]
  simp only [guardedEnv, env, Env.mk.injEq, and_true]
  exact funext hcolumn

theorem matching_eq_keeps (filter : Option (Condition Reference)) (parameters : List Parameter) :
    st.matching filter parameters =
      st.rows.filterM fun row => keeps filter (st.env parameters row) := by
  cases filter with
  | none =>
    have hall : st.rows.filter (fun _ => true) = st.rows := List.filter_eq_self.2 fun _ _ => rfl
    exact (congrArg Except.ok hall.symm).trans (filterM_ok fun _ _ => rfl).symm
  | some c => rfl

/-- No index of a selection lies beyond the end, where all rows have a value for each column. -/
theorem guarded_eq_select (beyond : ConditionError) (h : st.WellFormed) (s : Select Reference)
    (parameters : List Parameter) : st.guarded beyond s parameters = st.select s parameters := by
  rw [select_eq, guarded]
  cases hproject : st.project s.projection with
  | error e => rfl
  | ok indices =>
    have hlt := lt_of_project hproject
    rw [ok_bind, ok_bind, mapM_fetch beyond hlt, ok_bind, bind_pure_comp, matching_eq_keeps,
      List.map_filterMap]
    refine (map_filterM fun row hrow => ?_).symm
    have hlength := (h row hrow).1
    rw [guardedEnv_eq beyond parameters hlength, mapM_fetch beyond (hlength ▸ hlt)]
    cases keeps s.filter (st.env parameters row) with
    | error e => rfl
    | ok keep => cases keep <;> rfl

theorem length_of_select {s : Select Reference} {parameters : List Parameter} {rows : List Row}
    (h : st.WellFormed) (hselect : st.select s parameters = .ok rows) :
    ∀ row ∈ rows, row.values.length = row.columns.length := by
  simp only [select_eq, bind_eq_ok, pure_eq_ok] at hselect
  obtain ⟨indices, hproject, kept, hkept, rfl⟩ := hselect
  have hlt := lt_of_project hproject
  intro row hrow
  obtain ⟨values, hvalues, rfl⟩ := List.mem_map.1 hrow
  have hlength := (h values (mem_of_matching hkept values hvalues)).1
  have hcolumns : (indices.filterMap fun i => st.columns[i]?.map (·.1)) =
      (indices.filterMap (st.columns[·]?)).map (·.1) := by
    rw [List.map_filterMap]
  simp only [hcolumns, List.length_map, length_filterMap_getElem? hlt,
    length_filterMap_getElem? (hlength ▸ hlt)]

theorem select_all {t : Table} (hcolumns : st.columns = (ofTable t).columns) (h : st.WellFormed)
    (name : String) (parameters : List Parameter) :
    st.select ⟨.all, name, none⟩ parameters = .ok (st.rows.map (Row.mk t.columnNames)) := by
  have hnames : ((List.range st.columns.length).filterMap fun i => st.columns[i]?.map (·.1)) =
      t.columnNames := by
    rw [← List.map_filterMap, filterMap_range_getElem?]
    simp [hcolumns, ofTable, Table.columnNames, Function.comp_def]
  have hrows : st.rows.map (fun row => Row.mk t.columnNames
      ((List.range st.columns.length).filterMap (row[·]?))) =
        st.rows.map (Row.mk t.columnNames) := by
    refine List.map_congr_left fun row hrow => ?_
    rw [← (h row hrow).1, filterMap_range_getElem?]
  simp only [select_eq, project, matching, ok_bind, hnames]
  exact congrArg Except.ok hrows

end StoredTable

end PredicateSql
