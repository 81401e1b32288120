import PredicateSql.Proofs.Sentences
import PredicateSql.Proofs.Store

/-!
# Numbers of bare placeholders

Of the conditions that the parser builds, each bare `?` has the number of its place among them,
counted from left to right (`Phrase.positionals_eq` for every part of a condition). A statement that
has passed the check of its parameters therefore never looks for a parameter that is not there.
-/

namespace PredicateSql

def Reference.index? : Reference → Option Nat
  | .positional index => some index
  | .numbered _ | .named _ => none

def Condition.positionals (c : Condition Reference) : List Nat :=
  c.placeholders.filterMap Reference.index?

def Select.positionals (s : Select Reference) : List Nat :=
  (s.filter.map Condition.positionals).getD []

-- ---------------------------------------------------------------------------
-- Scanned token lists
-- ---------------------------------------------------------------------------

namespace Lexer

open Grammar

/-- What a text can have for a token before its end. -/
structure Scanned (t : Token) : Prop where
  ne_eof : t ≠ .eof
  numeral : ∀ digits, t = .number digits → IsNumeral digits

theorem scanned_word (chars : List Char) : Scanned (word chars) := by
  unfold word
  split
  · exact ⟨by simp, by simp⟩
  · exact ⟨by simp, by simp⟩

theorem scanned_number {c : Char} (hc : c.isDigit = true) (cs : List Char) :
    Scanned (.number (String.ofList (c :: cs.takeWhile Char.isDigit))) where
  ne_eof := by simp
  numeral := by
    rintro digits ⟨⟩
    refine ⟨by simp, fun d hd => ?_⟩
    rw [String.toList_ofList] at hd
    rcases List.mem_cons.1 hd with rfl | hd
    · exact hc
    · exact List.mem_takeWhile_imp hd

theorem scanned_of_token {size : Nat} {c : Char} {cs rest : List Char} {t : Token}
    (h : token size c cs = .ok (t, rest)) : Scanned t := by
  unfold token at h
  split at h
  next =>
    cases h
    exact ⟨by simp, by simp⟩
  next =>
    split at h
    next =>
      cases h
      exact ⟨by simp, by simp⟩
    split at h
    next =>
      simp only [numbered] at h
      split at h <;> cases h
      exact ⟨by simp, by simp⟩
    split at h
    next =>
      simp only [named] at h
      split at h <;> cases h
      exact ⟨by simp, by simp⟩
    split at h
    next =>
      unfold string at h
      split at h <;> cases h
      exact ⟨by simp, by simp⟩
    split at h
    next =>
      unfold quotedIdentifier at h
      split at h <;> cases h
      exact ⟨by simp, by simp⟩
    split at h
    next =>
      cases h
      exact scanned_word _
    split at h
    next hdigit =>
      cases h
      exact scanned_number hdigit cs
    next => cases h

theorem scanned_of_next? {size : Nat} {cs rest : List Char} {t : Token}
    (h : next? size cs = .ok (some (t, rest))) : Scanned t := by
  unfold next? at h
  split at h
  next => cases h
  next =>
    obtain ⟨⟨t', rest'⟩, htoken, heq⟩ := map_eq_ok.1 h
    cases heq
    exact scanned_of_token htoken

/-- The lexer adds the only `eof`, behind all other tokens. -/
theorem tokensFrom_eq_ok {size : Nat} {cs : List Char} {ts : List Token}
    (h : tokensFrom size cs = .ok ts) : ∃ us, ts = us ++ [.eof] ∧ ∀ t ∈ us, Scanned t := by
  fun_induction tokensFrom size cs generalizing ts with
  | case1 => cases h
  | case2 =>
    cases h
    exact ⟨[], rfl, by simp⟩
  | case3 cs t rest hnext ih =>
    obtain ⟨us, hus, rfl⟩ := map_eq_ok.1 h
    obtain ⟨us, rfl, hscanned⟩ := ih hus
    refine ⟨t :: us, rfl, fun t' ht' => ?_⟩
    rcases List.mem_cons.1 ht' with rfl | ht'
    · exact scanned_of_next? hnext
    · exact hscanned t' ht'

end Lexer

theorem Grammar.terminated_of_scan {text : String} {ts : List Token}
    (h : Token.scan text = .ok ts) :
    Terminated ts := by
  obtain ⟨us, rfl, hscanned⟩ := Lexer.tokensFrom_eq_ok h
  refine ⟨⟨us, rfl, fun hmem => (hscanned _ hmem).ne_eof rfl⟩, fun digits hdigits => ?_⟩
  have hmem : .number digits ∈ us := by simpa using hdigits
  exact (hscanned _ hmem).numeral digits rfl

-- ---------------------------------------------------------------------------
-- Numbers in order
-- ---------------------------------------------------------------------------

namespace Grammar

open PredicateSql.Parser

theorem positionals_operator {left right : Condition Reference} {k m n : Nat}
    (hl : left.positionals = List.range' k m) (hr : right.positionals = List.range' (k + m) n) :
    (left.placeholders ++ right.placeholders).filterMap Reference.index? =
      List.range' k (m + n) := by
  rw [List.filterMap_append, ← List.range'_append_1]
  exact congrArg₂ (· ++ ·) hl hr

/-- Where `k` bare placeholders stand before a phrase, its own are numbered from `k` on, each one
higher than the one before it. The operands of an operator share them out, the left one first. -/
theorem Phrase.positionals_eq {s : Strength} {k : Nat} {ts : List Token} {c : Condition Reference}
    (h : Phrase s k ts c) : c.positionals = List.range' k (bare ts) := by
  induction h with
  | number | string | true | false | null | column | numbered | named | positional => rfl
  | @parens k ts c _ ih =>
    rw [ih]
    simp [bare]
  | @negate k ts c _ ih => exact ih.trans (by simp [bare])
  | @not k ts c _ ih => exact ih.trans (by simp [bare])
  | isNull _ ih | isNotNull _ ih => exact ih.trans (by simp [bare])
  | product _ _ _ ihl ihr | sum _ _ _ ihl ihr | compare _ _ ihl ihr | and _ _ ihl ihr
  | or _ _ ihl ihr =>
    rw [bare_operator (by simp)]
    exact positionals_operator ihl ihr
  | ofStronger _ ih => exact ih

theorem Sentence.positionals_eq {ts : List Token} {s : Select Reference} (h : Sentence ts s) :
    s.positionals = List.range (bare ts) := by
  cases h with
  | select hselection hclause hes =>
    rw [bare_sentence hselection hes, List.range_eq_range']
    cases hclause with
    | absent => rfl
    | present hphrase => exact hphrase.positionals_eq.trans (by simp [bare])

end Grammar

-- ---------------------------------------------------------------------------
-- Binding
-- ---------------------------------------------------------------------------

theorem Condition.mem_positionals {c : Condition Reference} {index : Nat} :
    index ∈ c.positionals ↔ .positional index ∈ c.placeholders := by
  simp only [positionals, List.mem_filterMap]
  constructor
  · rintro ⟨r, hr, hindex⟩
    cases r <;> cases hindex
    exact hr
  · intro h
    exact ⟨_, h, rfl⟩

theorem Reference.eq_of_bind_eq_unbound {parameters : List Parameter} {r r' : Reference}
    (h : r.bind parameters = .error (.unbound r')) : r = r' := by
  simp only [bind] at h
  split at h <;> cases h
  rfl

theorem Reference.bind_positional {parameters : List Parameter} {index : Nat} {p : Parameter}
    (h : parameters[index]? = some p) : (positional index).bind parameters = .ok p.value := by
  simp [bind, h]

theorem Truth.ofValue_ne_unbound (v : Value) (r : Reference) :
    Truth.ofValue v ≠ .error (.unbound r) := by
  cases v <;> simp [ofValue]

theorem mapError_evaluation_ne_unbound {α : Type} (x : Except EvalError α) (r : Reference) :
    x.mapError ConditionError.evaluation ≠ .error (.unbound r) := by
  cases x <;> simp [Except.mapError]

theorem Condition.exists_unbound {ρ : Type} {env : Env ρ} {r : Reference} {c : Condition ρ}
    (hcolumn : ∀ name, env.column name ≠ .error (.unbound r))
    (h : c.eval env = .error (.unbound r)) :
    ∃ p ∈ c.placeholders, env.bound p = .error (.unbound r) := by
  induction c with
  | column name => exact absurd h (hcolumn name)
  | literal v => cases h
  | placeholder p => exact ⟨p, by simp [placeholders], h⟩
  | compare op left right ihl ihr =>
    simp only [placeholders, List.mem_append, or_and_right, exists_or]
    rw [eval_compare] at h
    rcases bind_eq_error.1 h with h | ⟨l, -, h⟩
    · exact .inl (ihl h)
    rcases bind_eq_error.1 h with h | ⟨r, -, h⟩
    · exact .inr (ihr h)
    split at h
    · cases h
    rcases bind_eq_error.1 h with h | ⟨o, -, h⟩
    · exact absurd h (mapError_evaluation_ne_unbound _ _)
    · cases h
  | arith op left right ihl ihr =>
    simp only [placeholders, List.mem_append, or_and_right, exists_or]
    rw [eval_arith] at h
    rcases bind_eq_error.1 h with h | ⟨l, -, h⟩
    · exact .inl (ihl h)
    rcases bind_eq_error.1 h with h | ⟨r, -, h⟩
    · exact .inr (ihr h)
    · exact absurd h (mapError_evaluation_ne_unbound _ _)
  | logic op left right ihl ihr =>
    simp only [placeholders, List.mem_append, or_and_right, exists_or]
    rw [eval_logic] at h
    rcases bind_eq_error.1 h with h | ⟨l, -, h⟩
    · exact .inl (ihl h)
    rcases bind_eq_error.1 h with h | ⟨t, -, h⟩
    · exact absurd h (Truth.ofValue_ne_unbound _ _)
    split at h
    · cases h
    rcases bind_eq_error.1 h with h | ⟨r, -, h⟩
    · exact .inr (ihr h)
    rcases bind_eq_error.1 h with h | ⟨t, -, h⟩
    · exact absurd h (Truth.ofValue_ne_unbound _ _)
    · cases h
  | not operand ih =>
    rw [eval_not] at h
    rcases bind_eq_error.1 h with h | ⟨v, -, h⟩
    · exact ih h
    rcases bind_eq_error.1 h with h | ⟨t, -, h⟩
    · exact absurd h (Truth.ofValue_ne_unbound _ _)
    · cases h
  | negate operand ih =>
    rw [eval_negate] at h
    rcases bind_eq_error.1 h with h | ⟨v, -, h⟩
    · exact ih h
    · cases v <;> cases h
  | isNull negated operand ih =>
    rw [eval_isNull] at h
    rcases bind_eq_error.1 h with h | ⟨v, -, h⟩
    · exact ih h
    · cases h

namespace StoredTable

variable {t : StoredTable} {parameters : List Parameter}

theorem columnIndex_ne_unbound (name : String) (r : Reference) :
    t.columnIndex name ≠ .error (.unbound r) := by
  unfold columnIndex
  split <;> simp

theorem project_ne_unbound (p : Projection) (r : Reference) :
    t.project p ≠ .error (.unbound r) := by
  intro h
  cases p with
  | all => cases h
  | columns names =>
    obtain ⟨name, -, hname⟩ := exists_of_mapM_eq_error h
    exact columnIndex_ne_unbound name r hname

theorem env_column_ne_unbound (row : List Value) (name : String) (r : Reference) :
    (t.env parameters row).column name ≠ .error (.unbound r) := by
  intro h
  rcases bind_eq_error.1 h with h | ⟨index, -, h⟩
  · exact columnIndex_ne_unbound name r h
  · split at h <;> cases h

theorem eval_ne_unbound {c : Condition Reference}
    (h : ∀ index ∈ c.positionals, index < parameters.length) (row : List Value) (index : Nat) :
    c.eval (t.env parameters row) ≠ .error (.unbound (.positional index)) := by
  intro heval
  obtain ⟨r, hr, hbound⟩ :=
    Condition.exists_unbound (fun name => env_column_ne_unbound row name _) heval
  obtain rfl := Reference.eq_of_bind_eq_unbound hbound
  have hlt := h index (Condition.mem_positionals.2 hr)
  cases hbound.symm.trans (Reference.bind_positional (List.getElem?_eq_getElem hlt))

theorem select_ne_unbound {s : Select Reference}
    (h : ∀ index ∈ s.positionals, index < parameters.length) (index : Nat) :
    t.select s parameters ≠ .error (.unbound (.positional index)) := by
  intro hselect
  rw [select_eq] at hselect
  rcases bind_eq_error.1 hselect with hproject | ⟨indices, -, hselect⟩
  · exact project_ne_unbound _ _ hproject
  rcases bind_eq_error.1 hselect with hmatching | ⟨rows, -, hselect⟩
  · rcases s with ⟨projection, table, _ | c⟩
    · cases hmatching
    · obtain ⟨row, -, hrow⟩ := exists_of_filterM_eq_error hmatching
      rcases bind_eq_error.1 hrow with heval | ⟨v, -, hrow⟩
      · exact eval_ne_unbound h row index heval
      rcases bind_eq_error.1 hrow with htruth | ⟨truth, -, hrow⟩
      · exact Truth.ofValue_ne_unbound _ _ htruth
      · cases hrow
  · cases hselect

end StoredTable

-- ---------------------------------------------------------------------------
-- Statements
-- ---------------------------------------------------------------------------

section Statements

variable {text : String} {ts : List Token} {s : Select Reference} {count : Nat}

theorem Grammar.sentence_of_parse (hscan : Token.scan text = .ok ts)
    (hparse : Select.parse ts = (.ok s, count)) : Sentence ts s ∧ count = bare ts := by
  have hsentence : Sentence ts s := (terminated_of_scan hscan).sentence (by rw [hparse])
  have hcount := hsentence.parse_eq.symm.trans hparse
  cases hcount
  exact ⟨hsentence, rfl⟩

/-- The bare placeholders of a statement have the numbers below their count, each once and in the
order of the text. With no fewer parameters than that, each of them stands for the parameter of its
number, and neither a filter on a row nor the statement on a database fails for want of one. -/
theorem Select.positionals_of_parse (hscan : Token.scan text = .ok ts)
    (hparse : Select.parse ts = (.ok s, count)) :
    count = ts.count (.placeholder .positional) ∧
    s.positionals = List.range count ∧
    ∀ parameters : List Parameter,
      (parameters.length < count → ∀ db : Database, (db.execute ⟨text, parameters⟩).result =
        .error (.tooFewParameters count parameters.length)) ∧
      (count ≤ parameters.length →
        (∀ index ∈ s.positionals, ∃ p, parameters[index]? = some p ∧
          ∀ (t : StoredTable) (row : List Value),
            (t.env parameters row).bound (.positional index) = .ok p.value) ∧
        ∀ index : Nat,
          (∀ c ∈ s.filter, ∀ (t : StoredTable) (row : List Value),
            c.eval (t.env parameters row) ≠ .error (.unbound (.positional index))) ∧
          ∀ db : Database, (db.execute ⟨text, parameters⟩).result ≠
            .error (.condition (.unbound (.positional index)))) := by
  obtain ⟨hsentence, hcount⟩ := Grammar.sentence_of_parse hscan hparse
  have hnumbers : s.positionals = List.range count := hcount ▸ hsentence.positionals_eq
  refine ⟨hcount, hnumbers, fun parameters => ⟨fun hfew db => ?_, fun henough => ?_⟩⟩
  · rw [Database.execute_of_parse hscan hparse, if_pos hfew]
  have hbelow : ∀ index ∈ s.positionals, index < parameters.length := by
    intro index hindex
    rw [hnumbers, List.mem_range] at hindex
    exact hindex.trans_le henough
  refine ⟨fun index hindex => ?_, fun index => ⟨fun c hc t row => ?_, fun db => ?_⟩⟩
  · have hget := List.getElem?_eq_getElem (hbelow index hindex)
    exact ⟨_, hget, fun _ _ => Reference.bind_positional hget⟩
  · refine StoredTable.eval_ne_unbound (fun index hindex => hbelow index ?_) row index
    rw [positionals, Option.mem_def.1 hc]
    exact hindex
  · rw [Database.execute_of_parse hscan hparse, if_neg henough.not_gt]
    intro h
    rcases bind_eq_error.1 h with h | ⟨t, -, h⟩
    · unfold Database.table at h
      split at h <;> cases h
    · obtain ⟨e, hselect, he⟩ := mapError_eq_error.1 h
      cases he
      exact StoredTable.select_ne_unbound hbelow index hselect

end Statements

theorem Select.positionals_of_parse_nested :
    ∃ ts s, Token.scan "SELECT * FROM t WHERE NOT (a = ? OR '?' = b) AND $1 < -?" = .ok ts ∧
      Select.parse ts = (.ok s, 2) ∧ s.positionals = [0, 1] ∧
      ∀ (db : Database) (index : Nat),
        (db.execute ⟨"SELECT * FROM t WHERE NOT (a = ? OR '?' = b) AND $1 < -?",
          [⟨"$1", .int32 5⟩, ⟨"?", .null⟩]⟩).result ≠
          .error (.condition (.unbound (.positional index))) := by
  obtain ⟨ts, s, hscan, hparse⟩ : ∃ ts s,
      Token.scan "SELECT * FROM t WHERE NOT (a = ? OR '?' = b) AND $1 < -?" = .ok ts ∧
        Select.parse ts = (.ok s, 2) :=
    ⟨[.keyword .select, .symbol .star, .keyword .from_, .identifier "t", .keyword .where_,
        .keyword .not, .symbol .leftParen, .identifier "a", .symbol .equal,
        .placeholder .positional, .keyword .or, .string "?", .symbol .equal, .identifier "b",
        .symbol .rightParen, .keyword .and, .placeholder (.numbered 1), .symbol .less,
        .symbol .minus, .placeholder .positional, .eof],
      ⟨.all, "t", some (.logic .and
        (.not (.logic .or
          (.compare .eq (.column "a") (.placeholder (.positional 0)))
          (.compare .eq (.literal (.string "?")) (.column "b"))))
        (.compare .lt (.placeholder (.numbered 1)) (.negate (.placeholder (.positional 1)))))⟩,
      by cbv, by cbv⟩
  obtain ⟨-, hnumbers, hbound⟩ := Select.positionals_of_parse hscan hparse
  exact ⟨ts, s, hscan, hparse, hnumbers, fun db index =>
    (((hbound _).2 (by decide)).2 index).2 db⟩

end PredicateSql
