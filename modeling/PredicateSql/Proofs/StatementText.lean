import PredicateSql.Demo
import PredicateSql.Proofs.Residue

/-!
# Prepared statements are read back

The text of a prepared statement is scanned and parsed into the statement that was meant: the
columns in the order of the catalog, the table, and the residue of the predicate as the filter, with
the k-th placeholder from the left bound to the k-th value.
-/

namespace PredicateSql

open PredicateSql.Lexer PredicateSql.Parser

/-- The names of the table can be written as they are, and there is a column to select. -/
structure Table.Writable (t : Table) : Prop where
  name : isPlain t.name = true
  columns : ∀ name ∈ t.columnNames, isPlain name = true
  nonempty : t.columnNames ≠ []

-- ---------------------------------------------------------------------------
-- Scanning
-- ---------------------------------------------------------------------------

def Token.list : List String → List Token
  | [] => []
  | [name] => [.identifier name]
  | name :: names => .identifier name :: .symbol .comma :: Token.list names

theorem Lexer.Reads.names {names : List String} {rest : List Char}
    (h : ∀ name ∈ names, isPlain name = true) (hrest : ends rest = true) :
    Reads (", ".intercalate names).toList (Token.list names) rest := by
  induction names with
  | nil => simpa [Token.list] using Reads.nil
  | cons name names ih =>
    cases names with
    | nil => simpa [Token.list] using Reads.plain (h name (by simp)) hrest
    | cons name' names =>
      have htail := ih fun n hn => h n (List.mem_cons_of_mem _ hn)
      have hcomma : Reads [','] [.symbol .comma]
          (' ' :: ((", ".intercalate (name' :: names)).toList ++ rest)) :=
        Reads.symbol .comma rfl
      simpa [String.intercalate_cons_cons, Token.list] using
        (Reads.plain (h name (by simp)) rfl).append (hcomma.append (Reads.blank.append htail))

def Table.clauseTokens (t : Table) : List Token :=
  .keyword .select :: (Token.list t.columnNames ++ [.keyword .from_, .identifier t.name])

theorem Table.Writable.reads {t : Table} (h : t.Writable) {rest : List Char}
    (hrest : ends rest = true) :
    Reads ("SELECT " ++ ", ".intercalate t.columnNames ++ " FROM " ++ t.name).toList
      t.clauseTokens rest := by
  have hfrom : Reads (", ".intercalate t.columnNames ++ " FROM " ++ t.name).toList
      (Token.list t.columnNames ++ .keyword .from_ :: [.identifier t.name]) rest := by
    simpa [Keyword.spelling] using Reads.between (fun _ => Reads.names h.columns)
      (fun _ => Reads.keyword .from_) (Reads.plain h.name hrest)
  simpa [Keyword.spelling, clauseTokens] using
    (Reads.keyword .select rfl).append (Reads.blank.append hfrom)

-- ---------------------------------------------------------------------------
-- Parsing
-- ---------------------------------------------------------------------------

namespace Parser

theorem names_gives {names : List String} (hne : names ≠ []) (k : Nat) {t : Token}
    (rest : List Token) (ht : t ≠ .symbol .comma) :
    Gives (Parser.names k (Token.list names ++ t :: rest)) names k (t :: rest) := by
  induction names with
  | nil => exact absurd rfl hne
  | cons name names ih =>
    cases names with
    | nil =>
      refine ⟨Nat.lt_succ_self _, ?_⟩
      show Parser.names k (.identifier name :: t :: rest) = _
      rw [Parser.names]
      simp only [identifier, bind, Except.bind]
      split
      next heq _ => exact absurd (List.cons.inj heq).1 ht
      next => rfl
    | cons name' names =>
      obtain ⟨h, ih⟩ := ih (by simp)
      refine ⟨Nat.lt_trans h (Nat.lt_succ_of_lt (Nat.lt_succ_self _)), ?_⟩
      show Parser.names k (.identifier name :: .symbol .comma ::
        (Token.list (name' :: names) ++ t :: rest)) = _
      rw [Parser.names]
      simp only [identifier, ih, bind, Except.bind]
      rfl

theorem projection_gives {names : List String} (hne : names ≠ []) (k : Nat) {t : Token}
    (rest : List Token) (ht : t ≠ .symbol .comma) :
    Gives (projection k (Token.list names ++ t :: rest)) (.columns names) k (t :: rest) := by
  obtain ⟨h, hnames⟩ := names_gives hne k rest ht
  refine ⟨h, ?_⟩
  have hstar : ∀ us, Token.list names ++ t :: rest ≠ .symbol .star :: us := by
    intro us heq
    match names, hne with
    | [_], _ | _ :: _ :: _, _ => cases heq
  rw [projection]
  · simp [hnames, bind, Except.bind, pure, Except.pure]
  · exact hstar

theorem statement_gives {t : Table} (h : t.Writable) {filter : Option Tree} {k k' : Nat}
    {ts : List Token} (hfilter : Gives (filter? k ts) filter k' [.eof]) :
    Gives (statement k (t.clauseTokens ++ ts)) ⟨.columns t.columnNames, t.name, filter⟩ k'
      [.eof] := by
  obtain ⟨_, hprojection⟩ := projection_gives h.nonempty k (.identifier t.name :: ts)
    (nofun : Token.keyword .from_ ≠ .symbol .comma)
  obtain ⟨_, hfilter⟩ := hfilter
  have hlength : [Token.eof].length < (t.clauseTokens ++ ts).length := by
    simp only [Table.clauseTokens, List.length_append, List.length_cons, List.length_nil]
    omega
  refine ⟨hlength, ?_⟩
  simp [Table.clauseTokens, statement, expect, hprojection, identifier, hfilter, skipSemicolon,
    current, bind, Except.bind, pure, Except.pure]

theorem parse_clause {t : Table} (h : t.Writable) {filter : Option Tree} {count : Nat}
    {ts : List Token} (hfilter : Gives (filter? 0 ts) filter count [.eof]) :
    Select.parse (t.clauseTokens ++ ts) =
      (.ok ⟨.columns t.columnNames, t.name, filter⟩, count) := by
  obtain ⟨_, hstatement⟩ := statement_gives h hfilter
  simp [Select.parse, hstatement]

end Parser

-- ---------------------------------------------------------------------------
-- The statement of a predicate
-- ---------------------------------------------------------------------------

def boundValues : Option (Condition Value) → List Value
  | none => []
  | some c => c.placeholders

/-- In that style, the statement is read as a selection from the table, with the filter's values
bound to its placeholders. -/
structure Statement.Selects (statement : Statement) (style : Style) (t : Table)
    (filter : Option (Condition Value)) : Prop where
  parameters : statement.parameters = style.parameters 0 (boundValues filter)
  parse : ∃ tokens count, Token.scan statement.text = .ok tokens ∧
    Select.parse tokens =
      (.ok ⟨.columns t.columnNames, t.name, filter.map (·.relabel style.reference 0)⟩, count) ∧
    count ≤ statement.parameters.length

namespace Table.Writable

variable {t : Table} {style : Style}

theorem selects_all (h : t.Writable) : (t.selectClause.render style).Selects style t none := by
  have hbalanced : t.selectClause.Balanced := by simp [Fragment.Balanced, selectClause]
  have hfilter : Gives (filter? 0 [.eof]) none 0 [.eof] := ⟨Nat.le_refl _, rfl⟩
  rw [t.selectClause.render_of_balanced style hbalanced]
  refine ⟨rfl, _, _, Reads.scan ?_, parse_clause h hfilter, Nat.le_refl _⟩
  simpa [selectClause] using h.reads rfl

theorem gives_where {k k' : Nat} {ts : List Token} {tree : Tree}
    (h : Derives .disjunction k ts tree k') :
    Gives (filter? k (.keyword .where_ :: (ts ++ [.eof]))) (some tree) k' [.eof] := by
  have hcondition : Gives (condition k (ts ++ [.eof])) tree k' [.eof] :=
    h.gives (show 7 < 8 by decide)
  obtain ⟨_, hcondition⟩ := hcondition
  refine ⟨by simp, ?_⟩
  simp [filter?, hcondition, bind, Except.bind, pure, Except.pure]

theorem selects_where (h : t.Writable) {f : Fragment} {c : Condition Value}
    (hf : f.Spells style .disjunction c)
    (hs : style.Covers
      (((t.selectClause.pushSql " WHERE ").append f).render style).parameters.length) :
    (((t.selectClause.pushSql " WHERE ").append f).render style).Selects style t (some c) := by
  have hbalanced : ((t.selectClause.pushSql " WHERE ").append f).Balanced := by
    simp [Fragment.Balanced, selectClause, hf.values, hf.slotCount]
  have hparameters : style.parameters 0 ((t.selectClause.pushSql " WHERE ").append f).values =
      style.parameters 0 c.placeholders := by
    simp [selectClause, hf.values]
  rw [Fragment.render_of_balanced style _ hbalanced, hparameters] at hs ⊢
  obtain ⟨ts, hts, hread⟩ := hf.reads 0 (by simpa using hs)
  have hreads : Reads (((t.selectClause.pushSql " WHERE ").append f).textFrom style 0).toList
      (t.clauseTokens ++ .keyword .where_ :: ts) [] := by
    simpa [selectClause, Keyword.spelling] using
      Reads.between (fun _ => h.reads) (fun _ => Reads.keyword .where_) (hread [] rfl)
  rw [style.bareBefore_zero] at hts
  refine ⟨rfl, _, _, by simpa using hreads.scan, parse_clause h (gives_where hts), ?_⟩
  simpa using style.bareBefore_le c.placeholders.length

end Table.Writable

theorem Scope.Lowers.selects {s : Scope} {e : Expr} {lowered : Lowered} {style : Style}
    (h : Lowers s e lowered) (ht : s.table.Writable)
    (hs : style.Covers ((s.table.select lowered).render style).parameters.length) :
    ((s.table.select lowered).render style).Selects style s.table lowered.residue.filter? := by
  match lowered with
  | .folded true => exact ht.selects_all
  | .folded false => exact ht.selects_where ((Fragment.Spells.parameter _).mono (by decide)) hs
  | .filter f => exact ht.selects_where (f.spells style (h.plain ht.columns)).1 hs

-- ---------------------------------------------------------------------------
-- Preparing
-- ---------------------------------------------------------------------------

namespace Session

variable {σ α : Type}

def State.tableOf (st : State σ) (type : RecordType) : Table :=
  (st.registry.table? type.id).getD type.table

def State.scope (st : State σ) (type : RecordType) (p : Predicate) : Scope :=
  ⟨st.tableOf type, (st.tableOf type).record, p.parameter⟩

theorem run_tableFor (type : RecordType) (st : State σ) :
    ∃ st', (tableFor type).run.run st = (.ok (st.tableOf type), st') := by
  rw [tableFor, run_bind_ok run_get]
  cases h : st.registry.table? type.id with
  | some t => exact ⟨st, by simp only [State.tableOf, h]; rfl⟩
  | none => exact ⟨_, by simp only [State.tableOf, h]; rfl⟩

theorem run_ofRun (run : Run QueryError α) (st : State σ) :
    (ofRun run).run.run st = (run.result, { st with log := st.log ++ run.events }) := by
  cases h : run.result <;> simp only [ofRun, h] <;> rfl

theorem result_prepare (s : Session σ) (type : RecordType) (p : Predicate) (st : State σ) :
    ((s.prepare type p).run.run st).1 =
      ((st.scope type p).lower p.body).result.map fun lowered =>
        ((st.tableOf type).select lowered).render s.style := by
  obtain ⟨st', htable⟩ := run_tableFor type st
  have hrun := run_ofRun ((st.scope type p).lower p.body) st'
  rw [prepare, run_bind_ok htable]
  cases hlower : ((st.scope type p).lower p.body).result with
  | error e =>
    rw [hlower, State.scope] at hrun
    rw [run_bind_error hrun]
    rfl
  | ok lowered =>
    rw [hlower, State.scope] at hrun
    rw [run_bind_ok hrun]
    rfl

theorem lowers_of_prepare {s : Session σ} {type : RecordType} {p : Predicate} {st : State σ}
    {statement : Statement} (h : ((s.prepare type p).run.run st).1 = .ok statement) :
    ∃ lowered, ((st.scope type p).lower p.body).result = .ok lowered ∧
      ((st.tableOf type).select lowered).render s.style = statement := by
  rwa [result_prepare, map_eq_ok] at h

/-- A prepared statement is read back as what the predicate leaves: every column of the table in
order, and the residue of the predicate for the filter. Its k-th placeholder from the left is the
k-th of the style and bound to the k-th value, and where the predicate is not decided these are the
values of the compiled condition and stand for operands only. -/
theorem parse_prepare (s : Session σ) (type : RecordType) (p : Predicate) (st : State σ)
    {statement : Statement} (ht : (st.tableOf type).Writable)
    (h : ((s.prepare type p).run.run st).1 = .ok statement)
    (hs : s.style.Covers statement.parameters.length) :
    ∃ residue tokens, p.body.residue (st.scope type p) = some residue ∧
      Token.scan statement.text = .ok tokens ∧
      (Select.parse tokens).1 = .ok ⟨.columns (st.tableOf type).columnNames, (st.tableOf type).name,
        residue.filter?.map (·.relabel s.style.reference 0)⟩ ∧
      statement.parameters.map (·.value) = boundValues residue.filter? ∧
      (∀ k v, (boundValues residue.filter?)[k]? = some v →
        (s.style.reference k).bind statement.parameters = .ok v) ∧
      (∀ c, residue.filter? = some c → (c.relabel s.style.reference 0).placeholders =
        (List.range c.placeholders.length).map s.style.reference) ∧
      (∀ c, residue = .condition c → c.isResidual = true ∧
        ∃ f, (st.scope type p).compile p.body = .ok f ∧ f.values = c.placeholders) := by
  obtain ⟨lowered, hlower, rfl⟩ := lowers_of_prepare h
  have hlowers := Scope.Lowers.of_lower hlower
  obtain ⟨hparameters, tokens, count, hscan, hparse, -⟩ := hlowers.selects ht hs
  simp only [State.scope] at hparameters hscan hparse
  refine ⟨lowered.residue, tokens, hlowers.residue, hscan, congrArg Prod.fst hparse, ?_, ?_, ?_, ?_⟩
  · rw [hparameters, Style.values_parameters]
  · intro k v hv
    rw [hparameters]
    exact Reference.bind_parameters s.style hv
  · intro c _
    rw [Condition.placeholders_relabel, List.range_eq_range']
  · intro c hc
    match lowered, hc with
    | .filter f, rfl =>
      have hspells := (f.spells s.style (hlowers.plain ht.columns)).1
      refine ⟨hlowers.isResidual, f.fragment, ?_, hspells.values⟩
      rw [Scope.compile, hlower]
      rfl

theorem parse_prepare_numbered :
    ((Session.prepare (⟨.numbered, Database.executor⟩ : Session Database) Demo.testType
      (.build fun q => .logic .or
        (.not (.logic .and (.compare .lt (Demo.int 2) (.arith .add (q "IntColumn") (Demo.int 1)))
          (q "BoolColumn")))
        (.compare .ne (q "StringColumn") (.constant .null)))).run.run (.start .empty)).1 =
      .ok ⟨"SELECT IntColumn, BoolColumn, StringColumn FROM TestType WHERE " ++
        "NOT (IntColumn + $1 > $2 AND BoolColumn = $3) OR StringColumn IS NOT NULL",
        [⟨"$1", .int32 1⟩, ⟨"$2", .int32 2⟩, ⟨"$3", .boolean true⟩]⟩ ∧
    ∃ tokens, Token.scan ("SELECT IntColumn, BoolColumn, StringColumn FROM TestType WHERE " ++
        "NOT (IntColumn + $1 > $2 AND BoolColumn = $3) OR StringColumn IS NOT NULL") = .ok tokens ∧
      (Select.parse tokens).1 = .ok ⟨.columns ["IntColumn", "BoolColumn", "StringColumn"],
        "TestType", some (.logic .or
          (.not (.logic .and
            (.compare .gt (.arith .add (.column "IntColumn") (.placeholder (.numbered 1)))
              (.placeholder (.numbered 2)))
            (.compare .eq (.column "BoolColumn") (.placeholder (.numbered 3)))))
          (.isNull true (.column "StringColumn")))⟩ := by
  refine (fun h => ⟨h, ?_⟩ : _ → _ ∧ _) (by cbv)
  obtain ⟨residue, tokens, hresidue, hscan, hparse, -⟩ := parse_prepare _ _ _ _
    ⟨by decide +kernel, by decide +kernel, by decide⟩ h (by decide)
  obtain rfl := (Option.some.inj hresidue).symm
  exact ⟨tokens, hscan, hparse⟩

end Session

end PredicateSql
