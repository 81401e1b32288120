import PredicateSql.Proofs.DemoEntries

/-!
# Runs of the demo

From the command line to the rows reported. `run_scenario`: one scenario prints its statement and
the number of entries of which it is true, and notes the first of them; `run_scenarios` does all of
them in order.
-/

namespace PredicateSql.Demo

-- ---------------------------------------------------------------------------
-- Queries
-- ---------------------------------------------------------------------------

theorem nodup_testType : testType.table.columnNames.Nodup := by
  decide

theorem writable_testType : testType.table.Writable :=
  ⟨by decide +kernel, by decide +kernel, by decide⟩

theorem exists_lowered {s : Scenario} (hs : s ∈ scenarios) :
    ∃ lowered, (s.scope.lower s.predicate.body).result = .ok lowered ∧ ∀ style : Style,
      style.Covers ((testType.table.select lowered).render style).parameters.length := by
  simp only [scenarios, List.mem_cons, List.not_mem_nil, or_false] at hs
  rcases hs with rfl | rfl | rfl | rfl | rfl | rfl | rfl
  all_goals exact ⟨_, rfl, fun style => by cases style <;> decide⟩

theorem exists_statement (style : Style) : ∃ statement : Scenario → Statement, ∀ s ∈ scenarios,
    Session.compiled style testType.table s.predicate = .ok (statement s) := by
  have hcompiled : ∀ s : Scenario, ∃ statement, s ∈ scenarios →
      Session.compiled style testType.table s.predicate = .ok statement := by
    intro s
    by_cases hs : s ∈ scenarios
    · obtain ⟨lowered, hlower, -⟩ := exists_lowered hs
      exact ⟨_, fun _ => congrArg (Except.map _) hlower⟩
    · exact ⟨⟨"", []⟩, fun h => absurd h hs⟩
  exact ⟨fun s => (hcompiled s).choose, fun s => (hcompiled s).choose_spec⟩

theorem mapM_read (es : List Entry) :
    ((es.map Entry.record).map (Row.mk testType.table.columnNames)).mapM testType.read =
      .ok (es.map Entry.record) := by
  induction es with
  | nil => rfl
  | cons e es ih =>
    have hread : testType.read ⟨testType.table.columnNames, e.record⟩ = .ok e.record := rfl
    rw [List.map_cons, List.map_cons, List.mapM_cons, hread, ih]
    rfl

section Queries

variable {s : Scenario} {highest : Int32} {db : Database} {style : Style} {statement : Statement}

theorem execute_scenario (hs : s ∈ scenarios)
    (hdb : db.Holds testType.table ((entries highest).map Entry.record))
    (h : Session.compiled style testType.table s.predicate = .ok statement) :
    (db.execute statement).result =
      .ok (((s.found highest).map Entry.record).map (Row.mk testType.table.columnNames)) := by
  obtain ⟨lowered, hlower, hcovers⟩ := exists_lowered hs
  have hlowers := Scope.Lowers.of_lower hlower
  have hstatement : Session.compiled style testType.table s.predicate =
      .ok ((testType.table.select lowered).render style) := congrArg (Except.map _) hlower
  obtain rfl := Except.ok.inj (hstatement.symm.trans h)
  have hselects : ∀ row ∈ (entries highest).map Entry.record,
      lowered.selects ((StoredTable.ofTable s.scope.table).rowEnv row) =
        .ok (s.predicate.body.isTrueOn s.scope row) := by
    intro row hrow
    obtain ⟨e, -, rfl⟩ := List.mem_map.1 hrow
    obtain ⟨b, hb⟩ := exists_reading hs e
    -- The readings are definite: no scenario divides.
    refine hlowers.selects_eq_isTrueOn ⟨nodup_testType, accepts_record e⟩ fun hzero => ?_
    cases hb.symm.trans hzero
  have hexecute := Database.Holds.execute_lowered (s := s.scope) hdb hlowers writable_testType
    nodup_testType (hcovers style)
  rw [filterM_ok hselects, List.filter_map] at hexecute
  exact hexecute

theorem found_scenario (hs : s ∈ scenarios)
    (hdb : db.Holds testType.table ((entries highest).map Entry.record))
    (h : Session.compiled style testType.table s.predicate = .ok statement) :
    Session.found ⟨style, Database.executor⟩ testType.table testType s.predicate db =
      (.ok ((s.found highest).map Entry.record), db) := by
  have hexecute := execute_scenario hs hdb h
  simp only [Session.found, h, Database.executor_eq, Run.result_mapError, hexecute, mapError_ok,
    ok_bind, mapM_read]

end Queries

-- ---------------------------------------------------------------------------
-- Scenarios
-- ---------------------------------------------------------------------------

structure Serves (db : Database) (st : Session.State Database) : Prop where
  table : st.registry.tableOf testType = testType.table
  store : st.store = db

def firstRow? (es : List Entry) : Option Event :=
  es.head?.map fun e => .firstRow e.record

def rowsLine (count : Nat) : String :=
  "  rows:   " ++ toString count

def Scenario.lines (s : Scenario) (statement : Statement) (count : Nat) : List String :=
  [s.name ++ ": " ++ s.predicate.render, "  sql:    " ++ statement.text] ++
    statement.parameters.map (fun p => "  bind:   " ++ p.placeholder ++ " = " ++ p.value.render) ++
    [rowsLine count]

section Actions

variable {α : Type} {st : State}

theorem run_onSession {x : Session.Action Database α} {report : QueryError → Report} {a : α}
    {session : Session.State Database} (h : x.run.run st.session = (.ok a, session)) :
    (onSession x report).run.run st = (.ok a, { st with session := session }) := by
  rw [onSession, run_bind_ok run_get]
  simp only [h]
  rfl

theorem run_onDatabase {x : Database.Action α} {report : DatabaseError → Report} {a : α}
    {db : Database} {log : List Event}
    (h : x.run.run ⟨st.session.store, []⟩ = (.ok a, ⟨db, log⟩)) :
    (onDatabase x report).run.run st = (.ok a,
      { st with session := { st.session with store := db, log := st.session.log ++ log } }) := by
  rw [onDatabase, run_bind_ok run_get]
  simp only [Database.Action.on, h]
  rfl

theorem run_print (line : String) :
    (print line).run.run st = (.ok (), { st with output := st.output ++ [line] }) := rfl

theorem run_forM_print (f : α → String) (as : List α) :
    (as.forM fun a => print (f a)).run.run st =
      (.ok (), { st with output := st.output ++ as.map f }) := by
  induction as generalizing st with
  | nil => simp; rfl
  | cons a as ih =>
    refine (run_bind_ok (run_print (f a))).trans (ih.trans ?_)
    simp

end Actions

theorem run_scenario {s : Scenario} {highest : Int32} {db : Database} {style : Style}
    {statement : Statement} {st : State} (hs : s ∈ scenarios)
    (hdb : db.Holds testType.table ((entries highest).map Entry.record))
    (h : Session.compiled style testType.table s.predicate = .ok statement)
    (hst : Serves db st.session) :
    ∃ st', (s.run ⟨style, Database.executor⟩).run.run st = (.ok (), st') ∧ Serves db st'.session ∧
      st'.output = st.output ++ s.lines statement (s.found highest).length ∧
      st'.session.log.filter Event.isInfo =
        st.session.log.filter Event.isInfo ++ (firstRow? (s.found highest)).toList := by
  -- The statement is prepared for its text, and once more for its records.
  have hprepare := Session.Runs.prepare ⟨style, Database.executor⟩ testType s.predicate st.session
  rw [hst.table, h, hst.store] at hprepare
  obtain ⟨log, hprepare, hlog⟩ := hprepare.quietly (.prepare _ _ _)
  have hselect := Session.Runs.select ⟨style, Database.executor⟩ testType s.predicate
    ⟨st.session.registry.use testType, db, log⟩
  rw [Registry.tableOf_use, hst.table, found_scenario hs hdb h, Registry.use_use] at hselect
  have hquiet (statement : Statement) (db : Database) :
      (Database.executor statement db).1.Quiet := by
    rw [Database.executor_eq]
    exact (Database.quiet_execute _ _).mapError _
  obtain ⟨log', hselect, hlog'⟩ := hselect.quietly (.select hquiet _ _)
  have hserves (log : List Event) : Serves db ⟨st.session.registry.use testType, db, log⟩ :=
    ⟨(Registry.tableOf_use _ _).trans hst.table, rfl⟩
  rw [Scenario.run, run_bind_ok (run_onSession hprepare), run_bind_ok (run_onSession hselect),
    run_bind_ok (run_print _), run_bind_ok (run_print _), run_bind_ok (run_forM_print _ _),
    run_bind_ok (run_print _)]
  cases s.found highest with
  | nil =>
    refine ⟨_, rfl, hserves log', by simp [Scenario.lines, rowsLine], ?_⟩
    rw [hlog', hlog]
    exact (List.append_nil _).symm
  | cons first rest =>
    refine ⟨_, rfl, hserves (log' ++ [.firstRow first.record]),
      by simp [Scenario.lines, rowsLine], ?_⟩
    show (log' ++ [Event.firstRow first.record]).filter Event.isInfo = _
    rw [List.filter_append, hlog', hlog]
    rfl

theorem run_scenarios {highest : Int32} {db : Database} {style : Style}
    {statement : Scenario → Statement} {ss : List Scenario} {st : State}
    (hss : ∀ s ∈ ss, s ∈ scenarios)
    (hdb : db.Holds testType.table ((entries highest).map Entry.record))
    (h : ∀ s ∈ ss, Session.compiled style testType.table s.predicate = .ok (statement s))
    (hst : Serves db st.session) :
    ∃ st', (ss.forM (Scenario.run ⟨style, Database.executor⟩)).run.run st = (.ok (), st') ∧
      st'.output = st.output ++
        ss.flatMap (fun s => s.lines (statement s) (s.found highest).length) ∧
      st'.session.log.filter Event.isInfo =
        st.session.log.filter Event.isInfo ++
          ss.filterMap fun s => firstRow? (s.found highest) := by
  induction ss generalizing st with
  | nil => exact ⟨st, rfl, by simp, by simp⟩
  | cons s ss ih =>
    obtain ⟨st₁, hrun, hst₁, houtput, hlog⟩ := run_scenario (hss s List.mem_cons_self) hdb
      (h s List.mem_cons_self) hst
    obtain ⟨st₂, hruns, houtputs, hlogs⟩ := ih (fun s hs => hss s (List.mem_cons_of_mem _ hs))
      (fun s hs => h s (List.mem_cons_of_mem _ hs)) hst₁
    refine ⟨st₂, (run_bind_ok hrun).trans hruns, ?_, ?_⟩
    · rw [houtputs, houtput, List.append_assoc, List.flatMap_cons]
    · rw [hlogs, hlog, List.append_assoc, List.filterMap_cons]
      cases firstRow? (s.found highest) <;> rfl

-- ---------------------------------------------------------------------------
-- The lines with counts
-- ---------------------------------------------------------------------------

def isRowsLine (line : String) : Bool :=
  "  rows:   ".toList.isPrefixOf line.toList

theorem isRowsLine_rowsLine (count : Nat) : isRowsLine (rowsLine count) = true := by
  simp [isRowsLine, rowsLine]

theorem isRowsLine_name {s : Scenario} (hs : s ∈ scenarios) (rest : String) :
    isRowsLine (s.name ++ rest) = false := by
  rw [isRowsLine, String.toList_append]
  simp only [scenarios, List.mem_cons, List.not_mem_nil, or_false] at hs
  rcases hs with rfl | rfl | rfl | rfl | rfl | rfl | rfl <;> rfl

/-- Of the lines of a scenario, the last is the one with the count. -/
theorem filter_lines {s : Scenario} (hs : s ∈ scenarios) (statement : Statement) (count : Nat) :
    (s.lines statement count).filter isRowsLine = [rowsLine count] := by
  have hname : isRowsLine (s.name ++ ": " ++ s.predicate.render) = false := by
    rw [String.append_assoc]
    exact isRowsLine_name hs _
  have hsql (rest : String) : isRowsLine ("  sql:    " ++ rest) = false := by
    rw [isRowsLine, String.toList_append]
    rfl
  have hbind (p : Parameter) :
      isRowsLine ("  bind:   " ++ p.placeholder ++ " = " ++ p.value.render) = false := by
    rw [isRowsLine, String.append_assoc, String.append_assoc, String.toList_append]
    rfl
  have hparameters : (statement.parameters.map fun p =>
      "  bind:   " ++ p.placeholder ++ " = " ++ p.value.render).filter isRowsLine = [] := by
    rw [List.filter_eq_nil_iff]
    rintro line hline
    obtain ⟨p, -, rfl⟩ := List.mem_map.1 hline
    simp [hbind]
  simp [Scenario.lines, hname, hsql, hparameters, isRowsLine_rowsLine]

theorem filter_flatMap_lines {ss : List Scenario} (hss : ∀ s ∈ ss, s ∈ scenarios)
    (statement : Scenario → Statement) (count : Scenario → Nat) :
    (ss.flatMap fun s => s.lines (statement s) (count s)).filter isRowsLine =
      ss.map fun s => rowsLine (count s) := by
  induction ss with
  | nil => rfl
  | cons s ss ih =>
    rw [List.flatMap_cons, List.filter_append, filter_lines (hss s List.mem_cons_self),
      ih fun s hs => hss s (List.mem_cons_of_mem _ hs)]
    rfl

-- ---------------------------------------------------------------------------
-- The demo
-- ---------------------------------------------------------------------------

theorem run_eq (o : Options) : ∃ (st : State) (statement : Scenario → Statement),
    (run o).run.run .start = (.ok (), st) ∧
    (∀ s ∈ scenarios, Session.compiled o.style testType.table s.predicate = .ok (statement s)) ∧
    st.output = scenarios.flatMap (fun s => s.lines (statement s) (s.found o.rows).length) ∧
    st.session.log.filter Event.isInfo =
      scenarios.filterMap fun s => firstRow? (s.found o.rows) := by
  obtain ⟨db, log, hload, hdb, hlog⟩ := load_holds o.rows
  obtain ⟨statement, hstatement⟩ := exists_statement o.style
  have hserves : Serves db ⟨.empty, db, [] ++ log⟩ := ⟨rfl, rfl⟩
  obtain ⟨st, hrun, houtput, hfirst⟩ := run_scenarios (fun _ => id) hdb hstatement
    (show Serves db (⟨⟨.empty, db, [] ++ log⟩, []⟩ : State).session from hserves)
  refine ⟨st, statement, ?_, hstatement, houtput, ?_⟩
  · rw [run, run_bind_ok (run_onDatabase hload)]
    exact hrun
  · rw [hfirst]
    simp [hlog]

/-- Whatever the highest number and the style, the demo succeeds. It loads the fillers up to that
number and the special entry, by number. It reports all of them for the third and the sixth of the
seven scenarios, all but the special one for the last, and only this one for the others. At the info
level it logs, of each scenario that found any, the entry with the least number. -/
theorem call_demo {ω : Type} (world : Surroundings ω) {args : List String} {o : Options}
    (hargs : world.options args = .ok o) :
    (entries o.rows).Pairwise (·.number < ·.number) ∧
    (∀ e, e ∈ entries o.rows ↔ e = ⟨3, true, "4"⟩ ∨
      ∃ i : Int32, 0 ≤ i ∧ i ≤ o.rows ∧ i ≠ 3 ∧ e = ⟨i, false, toString i.toInt⟩) ∧
    (∃ db st, (load o.rows).Leaves .empty db ∧ db.table testType.table.name = .ok st ∧
      st.rows = (entries o.rows).map Entry.record) ∧
    (∀ s ∈ scenarios, ∀ first, (s.found o.rows).head? = some first →
      ∀ e ∈ s.found o.rows, first.number ≤ e.number) ∧
    scenarios.map (fun s => (s.found o.rows).length) =
      [1, 1, (entries o.rows).length, 1, 1, (entries o.rows).length, (entries o.rows).length - 1] ∧
    ∃ outcome, call world args = .ok outcome ∧ outcome.result = .ok () ∧
      outcome.output.filter isRowsLine =
        [1, 1, (entries o.rows).length, 1, 1, (entries o.rows).length,
          (entries o.rows).length - 1].map (fun count => "  rows:   " ++ toString count) ∧
      outcome.log.filter Event.isInfo =
        (scenarios.filterMap fun s => firstRow? (s.found o.rows)).filter (world.shows o.level) := by
  obtain ⟨db, log, hload, hdb, -⟩ := load_holds o.rows
  obtain ⟨table, htable, -, hrows, -⟩ := hdb.stored
  obtain ⟨st, statement, hrun, -, houtput, hlog⟩ := run_eq o
  have hcall : call world args =
      .ok ⟨.ok (), st.output, st.session.log.filter (world.shows o.level)⟩ := by
    simp only [call, hargs, ok_bind, hrun]
    rfl
  refine ⟨pairwise_entries o.rows, mem_entries o.rows,
    ⟨db, table, Database.Action.leaves_iff.2 ⟨log, hload⟩, htable, hrows⟩,
    fun s _ first => first_le_of_mem_found o.rows, length_found o.rows, _, hcall, rfl, ?_, ?_⟩
  · rw [houtput, filter_flatMap_lines (fun _ => id), ← length_found, List.map_map]
    rfl
  · rw [← hlog, List.filter_filter, List.filter_filter]
    refine List.filter_congr fun e _ => Bool.and_comm _ _

theorem call_demo_negative :
    let world : Surroundings Unit :=
      ⟨fun args =>
          if args = ["--rows=-5", "-s", "named"] then .ok ⟨-5, .named, false⟩ else .error (),
        fun level e => e.level == .info || (level == .debug && e.level == .debug)⟩
    ∃ outcome, call world ["--rows=-5", "-s", "named"] = .ok outcome ∧ outcome.result = .ok () ∧
      outcome.output.filter isRowsLine =
        ["  rows:   1", "  rows:   1", "  rows:   1", "  rows:   1", "  rows:   1", "  rows:   1",
          "  rows:   0"] ∧
      outcome.log.filter Event.isInfo =
        List.replicate 6 (.firstRow [.int32 3, .boolean true, .string "4"]) := by
  intro world
  have hargs : world.options ["--rows=-5", "-s", "named"] = .ok ⟨-5, .named, false⟩ := rfl
  have hentries : entries (-5) = [special] := by simp [entries]
  obtain ⟨-, -, -, -, -, outcome, hcall, hresult, houtput, hlog⟩ := call_demo world hargs
  refine ⟨outcome, hcall, hresult, ?_, ?_⟩
  · rw [houtput, hentries]
    rfl
  · rw [hlog]
    show (scenarios.filterMap (firstRow? ∘ Scenario.found (-5))).filter _ = _
    rw [← List.filterMap_map, found_scenarios, hentries]
    rfl

end PredicateSql.Demo
