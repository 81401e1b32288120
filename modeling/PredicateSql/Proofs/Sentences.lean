import PredicateSql.Proofs.ParserSound
import PredicateSql.Proofs.StatementText

/-!
# The sentences of the language

The grammar of `SELECT` statements, said without the parser: `Phrase` for the conditions of each
strength of binding, `Sentence` for whole statements. `Select.parse_eq_ok_iff`: of the token lists
that end in their only `eof`, the parser accepts exactly the sentences, each for its one statement.
-/

namespace PredicateSql

namespace Grammar

open PredicateSql.Parser

def IsNumeral (digits : String) : Prop :=
  digits ≠ "" ∧ ∀ c ∈ digits.toList, c.isDigit = true

def numeral (digits : String) : Nat :=
  Nat.ofDigitChars 10 digits.toList 0

def bare (ts : List Token) : Nat :=
  ts.count (.placeholder .positional)

/-- The tokens are a phrase for the condition where `k` tokens `?` stand before them. Operators of
one strength group to the left, and comparisons do not chain. -/
inductive Phrase : Strength → Nat → List Token → Condition Reference → Prop
  | number {k digits} : IsNumeral digits → numeral digits ≤ 2147483647 →
      Phrase .primary k [.number digits] (.literal (.int32 (.ofNat (numeral digits))))
  | string {k s} : Phrase .primary k [.string s] (.literal (.string s))
  | true {k} : Phrase .primary k [.keyword .true] (.literal (.boolean true))
  | false {k} : Phrase .primary k [.keyword .false] (.literal (.boolean false))
  | null {k} : Phrase .primary k [.keyword .null] (.literal .null)
  | column {k name} : Phrase .primary k [.identifier name] (.column name)
  | positional {k} : Phrase .primary k [.placeholder .positional] (.placeholder (.positional k))
  | numbered {k n} : Phrase .primary k [.placeholder (.numbered n)] (.placeholder (.numbered n))
  | named {k name} : Phrase .primary k [.placeholder (.named name)] (.placeholder (.named name))
  | parens {k ts c} : Phrase .disjunction k ts c →
      Phrase .primary k (.symbol .leftParen :: (ts ++ [.symbol .rightParen])) c
  | negate {k ts c} : Phrase .unary k ts c → Phrase .unary k (.symbol .minus :: ts) (.negate c)
  | product {k ts us op left right} : op ∈ [ArithOp.mul, .div, .mod] → Phrase .product k ts left →
      Phrase .unary (k + bare ts) us right →
      Phrase .product k (ts ++ .symbol op.symbol :: us) (.arith op left right)
  | sum {k ts us op left right} : op ∈ [ArithOp.add, .sub] → Phrase .sum k ts left →
      Phrase .product (k + bare ts) us right →
      Phrase .sum k (ts ++ .symbol op.symbol :: us) (.arith op left right)
  | isNull {k ts c} : Phrase .sum k ts c →
      Phrase .comparison k (ts ++ [.keyword .is, .keyword .null]) (.isNull false c)
  | isNotNull {k ts c} : Phrase .sum k ts c →
      Phrase .comparison k (ts ++ [.keyword .is, .keyword .not, .keyword .null]) (.isNull true c)
  | compare {k ts us op left right} : Phrase .sum k ts left → Phrase .sum (k + bare ts) us right →
      Phrase .comparison k (ts ++ .symbol op.symbol :: us) (.compare op left right)
  | not {k ts c} : Phrase .negation k ts c → Phrase .negation k (.keyword .not :: ts) (.not c)
  | and {k ts us left right} : Phrase .conjunction k ts left →
      Phrase .negation (k + bare ts) us right →
      Phrase .conjunction k (ts ++ .keyword .and :: us) (.logic .and left right)
  | or {k ts us left right} : Phrase .disjunction k ts left →
      Phrase .conjunction (k + bare ts) us right →
      Phrase .disjunction k (ts ++ .keyword .or :: us) (.logic .or left right)
  | ofStronger {s k ts c} : Phrase s.stronger k ts c → Phrase s k ts c

inductive Selection : List Token → Projection → Prop
  | all : Selection [.symbol .star] .all
  | columns {names} : names ≠ [] → Selection (Token.list names) (.columns names)

inductive Clause : List Token → Option (Condition Reference) → Prop
  | absent : Clause [] none
  | present {ts c} : Phrase .disjunction 0 ts c → Clause (.keyword .where_ :: ts) (some c)

/-- A whole statement up to `eof`; a semicolon may end it. -/
inductive Sentence : List Token → Select Reference → Prop
  | select {ps ws es projection table filter} : Selection ps projection → Clause ws filter →
      es ∈ [[], [Token.symbol .semicolon]] →
      Sentence (.keyword .select :: (ps ++ .keyword .from_ :: .identifier table ::
        (ws ++ es ++ [.eof])))
        ⟨projection, table, filter⟩

def Numerals (ts : List Token) : Prop :=
  ∀ digits, .number digits ∈ ts → IsNumeral digits

theorem Numerals.mono {ts us : List Token} (h : Numerals ts) (hsubset : us ⊆ ts) : Numerals us :=
  fun digits hdigits => h digits (hsubset hdigits)

/-- The token lists that texts are scanned to: they end in their only `eof`, and numbers are written
in digits. -/
structure Terminated (ts : List Token) : Prop where
  eof : ∃ us, ts = us ++ [.eof] ∧ .eof ∉ us
  numerals : Numerals ts

-- ---------------------------------------------------------------------------
-- Tokens
-- ---------------------------------------------------------------------------

section Tokens

variable {t : Token}

theorem productOp?_eq_some {op : ArithOp} :
    productOp? t = some op ↔ t = .symbol op.symbol ∧ op ∈ [ArithOp.mul, .div, .mod] := by
  constructor
  · intro h
    unfold productOp? at h
    split at h <;> cases h <;> simp [ArithOp.symbol]
  · rintro ⟨rfl, hop⟩
    cases op <;> simp_all [productOp?, ArithOp.symbol]

theorem sumOp?_eq_some {op : ArithOp} :
    sumOp? t = some op ↔ t = .symbol op.symbol ∧ op ∈ [ArithOp.add, .sub] := by
  constructor
  · intro h
    unfold sumOp? at h
    split at h <;> cases h <;> simp [ArithOp.symbol]
  · rintro ⟨rfl, hop⟩
    cases op <;> simp_all [sumOp?, ArithOp.symbol]

theorem compareOp?_eq_some {op : CompareOp} :
    compareOp? t = some op ↔ t = .symbol op.symbol := by
  constructor
  · intro h
    unfold compareOp? at h
    split at h <;> cases h <;> rfl
  · rintro rfl
    cases op <;> rfl

theorem andOp?_eq_some {op : LogicOp} : andOp? t = some op ↔ t = .keyword .and ∧ op = .and := by
  constructor
  · intro h
    unfold andOp? at h
    split at h <;> cases h
    exact ⟨rfl, rfl⟩
  · rintro ⟨rfl, rfl⟩
    rfl

theorem orOp?_eq_some {op : LogicOp} : orOp? t = some op ↔ t = .keyword .or ∧ op = .or := by
  constructor
  · intro h
    unfold orOp? at h
    split at h <;> cases h
    exact ⟨rfl, rfl⟩
  · rintro ⟨rfl, rfl⟩
    rfl

theorem int32?_of_isNumeral {digits : String} (h : IsNumeral digits) :
    Text.int32? digits.toList =
      if numeral digits ≤ 2147483647 then some (.ofNat (numeral digits)) else none := by
  obtain ⟨hne, hdigits⟩ := h
  have hnatural : Text.natural? digits.toList = some (numeral digits) := by
    simp only [Text.natural?, numeral]
    rw [if_pos]
    exact ⟨by simpa using hne, List.all_eq_true.2 hdigits⟩
  unfold Text.int32?
  split
  next heq => simp [heq] at hdigits
  next heq => simp [heq] at hdigits
  next =>
    rw [hnatural]
    simp [Nat.lt_succ_iff]

end Tokens

-- ---------------------------------------------------------------------------
-- Phrases and what the parser derives
-- ---------------------------------------------------------------------------

theorem bare_operator {t : Token} (ht : t ≠ .placeholder .positional) (ts us : List Token) :
    bare (ts ++ t :: us) = bare ts + bare us := by
  rw [bare, List.count_append, List.count_cons_of_ne ht]
  rfl

theorem add_bare_operator {t : Token} (ht : t ≠ .placeholder .positional) (k : Nat)
    (ts us : List Token) : k + bare (ts ++ t :: us) = k + bare ts + bare us := by
  rw [bare_operator ht, Nat.add_assoc]

theorem Phrase.derives {s : Strength} {k : Nat} {ts : List Token} {c : Condition Reference}
    (h : Phrase s k ts c) : Derives s k ts c (k + bare ts) := by
  induction h with
  | number hdigits hle =>
    refine .atom ?_
    simp [atom, int32?_of_isNumeral hdigits, hle, bare]
  | string | true | false | null | column | positional | numbered | named => exact .atom rfl
  | parens _ ih => simpa [bare] using ih.parens
  | negate _ ih => simpa [bare] using ih.negate
  | not _ ih => simpa [bare] using ih.not
  | isNull _ ih => simpa [bare] using ih.isNull
  | isNotNull _ ih => simpa [bare] using ih.isNotNull
  | product hop _ _ ihl ihr =>
    rw [add_bare_operator (by simp)]
    exact .product (productOp?_eq_some.2 ⟨rfl, hop⟩) ihl ihr
  | sum hop _ _ ihl ihr =>
    rw [add_bare_operator (by simp)]
    exact .sum (sumOp?_eq_some.2 ⟨rfl, hop⟩) ihl ihr
  | compare _ _ ihl ihr =>
    rw [add_bare_operator (by simp)]
    exact .compare (compareOp?_eq_some.2 rfl) ihl ihr
  | and _ _ ihl ihr =>
    rw [add_bare_operator (by simp)]
    exact .and rfl ihl ihr
  | or _ _ ihl ihr =>
    rw [add_bare_operator (by simp)]
    exact .or rfl ihl ihr
  | ofStronger _ ih => exact ih.ofStronger

theorem phrase_of_atom {t : Token} {tree : Tree} {k k' : Nat} (h : atom k t = .ok (tree, k'))
    (hnumerals : Numerals [t]) : Phrase .primary k [t] tree ∧ k' = k + bare [t] := by
  cases t with
  | number digits =>
    have hdigits := hnumerals digits (by simp)
    by_cases hle : numeral digits ≤ 2147483647
    · obtain ⟨rfl, rfl⟩ : _ = tree ∧ k = k' := by
        simpa [atom, int32?_of_isNumeral hdigits, hle] using h
      exact ⟨.number hdigits hle, rfl⟩
    · simp [atom, int32?_of_isNumeral hdigits, hle] at h
  | identifier name =>
    cases h
    exact ⟨.column, rfl⟩
  | string s =>
    cases h
    exact ⟨.string, rfl⟩
  | placeholder m =>
    cases m with
    | positional =>
      cases h
      exact ⟨.positional, rfl⟩
    | numbered n =>
      cases h
      exact ⟨.numbered, rfl⟩
    | named name =>
      cases h
      exact ⟨.named, rfl⟩
  | keyword word =>
    cases word with
    | true =>
      cases h
      exact ⟨.true, rfl⟩
    | false =>
      cases h
      exact ⟨.false, rfl⟩
    | null =>
      cases h
      exact ⟨.null, rfl⟩
    | _ => cases h
  | symbol _ | eof => cases h

/-- The count behind what is derived has gone up by one for each `?` in it. -/
theorem phrase_of_derives {s : Strength} {k k' : Nat} {ts : List Token} {tree : Tree}
    (h : Derives s k ts tree k') (hnumerals : Numerals ts) :
    Phrase s k ts tree ∧ k' = k + bare ts := by
  induction h with
  | atom h => exact phrase_of_atom h hnumerals
  | parens _ ih =>
    obtain ⟨h, rfl⟩ := ih (hnumerals.mono (by simp))
    exact ⟨.parens h, by simp [bare]⟩
  | negate _ ih =>
    obtain ⟨h, rfl⟩ := ih (hnumerals.mono (by simp))
    exact ⟨.negate h, by simp [bare]⟩
  | not _ ih =>
    obtain ⟨h, rfl⟩ := ih (hnumerals.mono (by simp))
    exact ⟨.not h, by simp [bare]⟩
  | isNull _ ih =>
    obtain ⟨h, rfl⟩ := ih (hnumerals.mono (by simp))
    exact ⟨.isNull h, by simp [bare]⟩
  | isNotNull _ ih =>
    obtain ⟨h, rfl⟩ := ih (hnumerals.mono (by simp))
    exact ⟨.isNotNull h, by simp [bare]⟩
  | ofPrimary _ ih | ofUnary _ ih | ofProduct _ ih | ofSum _ ih | ofComparison _ ih
  | ofNegation _ ih
  | ofConjunction _ ih => exact ⟨.ofStronger (ih hnumerals).1, (ih hnumerals).2⟩
  | product hop _ _ ihl ihr =>
    obtain ⟨rfl, hmem⟩ := productOp?_eq_some.1 hop
    obtain ⟨hl, rfl⟩ := ihl (hnumerals.mono (by simp))
    obtain ⟨hr, rfl⟩ := ihr (hnumerals.mono (by simp))
    exact ⟨.product hmem hl hr, (add_bare_operator (by simp) _ _ _).symm⟩
  | sum hop _ _ ihl ihr =>
    obtain ⟨rfl, hmem⟩ := sumOp?_eq_some.1 hop
    obtain ⟨hl, rfl⟩ := ihl (hnumerals.mono (by simp))
    obtain ⟨hr, rfl⟩ := ihr (hnumerals.mono (by simp))
    exact ⟨.sum hmem hl hr, (add_bare_operator (by simp) _ _ _).symm⟩
  | compare hop _ _ ihl ihr =>
    obtain rfl := compareOp?_eq_some.1 hop
    obtain ⟨hl, rfl⟩ := ihl (hnumerals.mono (by simp))
    obtain ⟨hr, rfl⟩ := ihr (hnumerals.mono (by simp))
    exact ⟨.compare hl hr, (add_bare_operator (by simp) _ _ _).symm⟩
  | and hop _ _ ihl ihr =>
    obtain ⟨rfl, rfl⟩ := andOp?_eq_some.1 hop
    obtain ⟨hl, rfl⟩ := ihl (hnumerals.mono (by simp))
    obtain ⟨hr, rfl⟩ := ihr (hnumerals.mono (by simp))
    exact ⟨.and hl hr, (add_bare_operator (by simp) _ _ _).symm⟩
  | or hop _ _ ihl ihr =>
    obtain ⟨rfl, rfl⟩ := orOp?_eq_some.1 hop
    obtain ⟨hl, rfl⟩ := ihl (hnumerals.mono (by simp))
    obtain ⟨hr, rfl⟩ := ihr (hnumerals.mono (by simp))
    exact ⟨.or hl hr, (add_bare_operator (by simp) _ _ _).symm⟩

-- ---------------------------------------------------------------------------
-- Sentences are parsed
-- ---------------------------------------------------------------------------

theorem bare_list (names : List String) : bare (Token.list names) = 0 := by
  fun_induction Token.list names with
  | case1 => rfl
  | case2 => rfl
  | case3 => simp_all [bare]

theorem bare_of_selection {ps : List Token} {p : Projection} (h : Selection ps p) :
    bare ps = 0 := by
  cases h with
  | all => rfl
  | columns => exact bare_list _

theorem Selection.gives {ps : List Token} {p : Projection} (h : Selection ps p) (k : Nat)
    (rest : List Token) :
    Gives (projection k (ps ++ .keyword .from_ :: rest)) p k (.keyword .from_ :: rest) := by
  cases h with
  | all => exact ⟨Nat.lt_succ_self _, rfl⟩
  | columns hne => exact projection_gives hne k rest (by simp)

theorem Clause.gives {ws es : List Token} {filter : Option Tree} (h : Clause ws filter)
    (hes : es ∈ [[], [Token.symbol .semicolon]]) :
    Gives (filter? 0 (ws ++ es ++ [.eof])) filter (bare ws) (es ++ [.eof]) := by
  have hend : ∃ t us, es ++ [.eof] = t :: us ∧ t ≠ .keyword .where_ ∧ joinRank t = 8 := by
    rcases List.mem_pair.1 hes with rfl | rfl
    · exact ⟨.eof, [], rfl, by simp, rfl⟩
    · exact ⟨.symbol .semicolon, [.eof], rfl, by simp, rfl⟩
  obtain ⟨t, us, heq, hwhere, hrank⟩ := hend
  rw [List.append_assoc, heq]
  cases h with
  | absent =>
    refine ⟨Nat.le_refl _, ?_⟩
    show filter? 0 (t :: us) = _
    rw [filter?]
    · rfl
    · intro vs hvs
      exact hwhere (List.cons.inj hvs).1
  | present h =>
    have hfollows : Follows .disjunction (t :: us) := by
      show 7 < joinRank t
      omega
    obtain ⟨hlt, hcondition⟩ := h.derives.gives hfollows
    refine ⟨Nat.le_succ_of_le (Nat.le_of_lt hlt), ?_⟩
    simp [filter?, hcondition, bare, bind, Except.bind, pure, Except.pure]

theorem statement_gives_parts {k l m : Nat} {ts us vs : List Token} {p : Projection}
    {table : String} {filter : Option Tree}
    (hprojection : Gives (projection k ts) p l (.keyword .from_ :: .identifier table :: us))
    (hfilter : Gives (filter? l us) filter m vs) (hend : current (skipSemicolon vs).1 = .eof) :
    Gives (statement k (.keyword .select :: ts)) ⟨p, table, filter⟩ m (skipSemicolon vs).1 := by
  obtain ⟨hlt, hprojection⟩ := hprojection
  obtain ⟨hle, hfilter⟩ := hfilter
  have hskip := (skipSemicolon vs).2
  simp only [List.length_cons] at hlt
  refine ⟨by rw [List.length_cons]; omega, ?_⟩
  simp [statement, expect, hprojection, identifier, hfilter, hend, bind, Except.bind, pure,
    Except.pure]

theorem bare_sentence {ps ws es : List Token} {p : Projection} (hselection : Selection ps p)
    (hes : es ∈ [[], [Token.symbol .semicolon]]) (table : String) :
    bare (.keyword .select ::
      (ps ++ .keyword .from_ :: .identifier table :: (ws ++ es ++ [.eof]))) = bare ws := by
  have hps := bare_of_selection hselection
  have hes : bare es = 0 := by
    rcases List.mem_pair.1 hes with rfl | rfl <;> rfl
  simp only [bare] at hps hes ⊢
  simp [hps, hes]

theorem Sentence.parse_eq {ts : List Token} {s : Select Reference} (h : Sentence ts s) :
    Select.parse ts = (.ok s, bare ts) := by
  cases h with
  | @select ps ws es _ table _ hselection hclause hes =>
    have hrest : (skipSemicolon (es ++ [.eof])).1 = [.eof] := by
      rcases List.mem_pair.1 hes with rfl | rfl <;> rfl
    have hprojection := hselection.gives 0 (.identifier table :: (ws ++ es ++ [.eof]))
    obtain ⟨_, hstatement⟩ :=
      statement_gives_parts hprojection (hclause.gives hes) (by rw [hrest]; rfl)
    simp only [Select.parse, hstatement, bare_sentence hselection hes]

theorem Sentence.parse {ts : List Token} {s : Select Reference} (h : Sentence ts s) :
    (Select.parse ts).1 = .ok s := by
  rw [h.parse_eq]

-- ---------------------------------------------------------------------------
-- What is parsed is a sentence
-- ---------------------------------------------------------------------------

section Sound

variable {k k' : Nat} {ts rest : List Token}

theorem eq_of_names {names : List String} (h : Gives (Parser.names k ts) names k' rest) :
    names ≠ [] ∧ ts = Token.list names ++ rest ∧ k = k' := by
  induction hlength : ts.length using Nat.strong_induction_on generalizing ts names rest with
  | _ length ih =>
    subst hlength
    rw [Parser.names] at h
    obtain ⟨name, l, us, hu, hname, h⟩ := gives_bind h
    obtain ⟨rfl, rfl⟩ := eq_of_identifier hname
    simp only at h
    split at h
    next =>
      obtain ⟨more, l, vs, _, hmore, h⟩ := gives_bind h
      obtain ⟨rfl, rfl, rfl⟩ := gives_pure h
      obtain ⟨hne, rfl, rfl⟩ := ih _ (by simp) hmore rfl
      cases more with
      | nil => exact absurd rfl hne
      | cons name' more => exact ⟨by simp, by simp [Token.list], rfl⟩
    next =>
      obtain ⟨rfl, rfl, rfl⟩ := gives_pure h
      exact ⟨by simp, rfl, rfl⟩

theorem selection_of_gives {p : Projection} (h : Gives (projection k ts) p k' rest) :
    ∃ ps, ts = ps ++ rest ∧ k = k' ∧ Selection ps p := by
  unfold projection at h
  split at h
  next =>
    obtain ⟨rfl, rfl, rfl⟩ := gives_pure h
    exact ⟨[.symbol .star], rfl, rfl, .all⟩
  next =>
    obtain ⟨names, l, us, _, hnames, h⟩ := gives_bind h
    obtain ⟨rfl, rfl, rfl⟩ := gives_pure h
    obtain ⟨hne, rfl, rfl⟩ := eq_of_names hnames
    exact ⟨Token.list names, rfl, rfl, .columns hne⟩

theorem clause_of_gives {filter : Option Tree} (h : Gives (filter? 0 ts) filter k' rest)
    (hnumerals : Numerals ts) : ∃ ws, ts = ws ++ rest ∧ Clause ws filter := by
  unfold filter? at h
  split at h
  next =>
    obtain ⟨c, l, us, _, hcondition, h⟩ := gives_bind h
    obtain ⟨rfl, rfl, rfl⟩ := gives_pure h
    obtain ⟨ws, rfl, hws⟩ := hcondition.derives
    exact ⟨.keyword .where_ :: ws, rfl,
      .present (phrase_of_derives hws (hnumerals.mono (by simp))).1⟩
  next =>
    obtain ⟨rfl, rfl, rfl⟩ := gives_pure h
    exact ⟨[], rfl, .absent⟩

theorem eq_skipSemicolon (ts : List Token) :
    ∃ es ∈ [[], [Token.symbol .semicolon]], ts = es ++ (skipSemicolon ts).1 := by
  unfold skipSemicolon
  split
  next => exact ⟨[.symbol .semicolon], by simp, rfl⟩
  next => exact ⟨[], by simp, rfl⟩

theorem eof_not_mem_of_derives {s : Strength} {tree : Tree} (h : Derives s k ts tree k') :
    .eof ∉ ts := by
  induction h with
  | atom h =>
    rintro hmem
    rw [← List.mem_singleton.1 hmem] at h
    cases h
  | product hop _ _ ihl ihr => simp [ihl, ihr, productOp?_eq_some.1 hop]
  | sum hop _ _ ihl ihr => simp [ihl, ihr, sumOp?_eq_some.1 hop]
  | compare hop _ _ ihl ihr => simp [ihl, ihr, compareOp?_eq_some.1 hop]
  | and hop _ _ ihl ihr => simp [ihl, ihr, andOp?_eq_some.1 hop]
  | or hop _ _ ihl ihr => simp [ihl, ihr, orOp?_eq_some.1 hop]
  | _ => simp_all

theorem Terminated.eq_of_append {before : List Token} (h : Terminated (before ++ rest))
    (hbefore : .eof ∉ before) (hrest : current rest = .eof) : rest = [.eof] := by
  obtain ⟨us, heq, hus⟩ := h.eof
  rcases rest.eq_nil_or_concat with rfl | ⟨vs, t, rfl⟩
  · simp only [List.append_nil] at heq
    simp [heq] at hbefore
  · rw [List.concat_eq_append, ← List.append_assoc] at heq
    obtain ⟨rfl, ht⟩ := List.append_inj' heq rfl
    cases vs with
    | nil => simp [ht]
    | cons v vs =>
      obtain rfl : v = .eof := by simpa [current] using hrest
      simp at hus

theorem eof_not_mem_of_selection {ps : List Token} {p : Projection} (h : Selection ps p) :
    .eof ∉ ps := by
  cases h with
  | all => simp
  | @columns names _ =>
    fun_induction Token.list names with
    | case1 => simp
    | case2 => simp
    | case3 => simp_all

theorem eof_not_mem_of_clause {ws : List Token} {filter : Option (Condition Reference)}
    (h : Clause ws filter) : .eof ∉ ws := by
  cases h with
  | absent => simp
  | present h => simp [eof_not_mem_of_derives h.derives]

theorem Terminated.sentence {s : Select Reference} (hts : Terminated ts)
    (h : (Select.parse ts).1 = .ok s) : Sentence ts s := by
  have hstatement : ∃ k rest, Gives (statement 0 ts) s k rest := by
    unfold Select.parse at h
    split at h
    next k rest hs =>
      cases h
      exact ⟨k, rest, ⟨rest.2, hs⟩⟩
    next => cases h
  obtain ⟨k, rest, hstatement⟩ := hstatement
  obtain ⟨_, _, ts₁, _, hselect, hstatement⟩ := gives_bind hstatement
  obtain ⟨p, _, ts₂, _, hprojection, hstatement⟩ := gives_bind hstatement
  obtain ⟨_, _, ts₃, _, hfrom, hstatement⟩ := gives_bind hstatement
  obtain ⟨table, _, ts₄, _, htable, hstatement⟩ := gives_bind hstatement
  obtain ⟨filter, _, ts₅, _, hfilter, hlast⟩ := gives_bind hstatement
  obtain ⟨rfl, rfl⟩ := eq_of_expect hselect
  obtain ⟨ps, rfl, rfl, hps⟩ := selection_of_gives hprojection
  obtain ⟨rfl, rfl⟩ := eq_of_expect hfrom
  obtain ⟨rfl, rfl⟩ := eq_of_identifier htable
  obtain ⟨ws, rfl, hws⟩ := clause_of_gives hfilter (hts.numerals.mono fun t ht => by simp [ht])
  obtain ⟨es, hes, heq⟩ := eq_skipSemicolon ts₅
  simp only at hlast
  split at hlast
  next hend =>
    obtain ⟨rfl, rfl, rfl⟩ := gives_pure hlast
    generalize (skipSemicolon ts₅).1 = rest at heq hend
    subst heq
    have hbefore : .eof ∉ .keyword .select ::
        (ps ++ .keyword .from_ :: .identifier table :: (ws ++ es)) := by
      rcases List.mem_pair.1 hes with rfl | rfl <;>
        simp [eof_not_mem_of_selection hps, eof_not_mem_of_clause hws]
    obtain rfl : rest = [.eof] := Terminated.eq_of_append (by simpa using hts) hbefore hend
    simpa using Sentence.select hps hws hes
  next =>
    obtain ⟨_, hthrow⟩ := hlast
    cases hthrow

end Sound

end Grammar

open Grammar

/-- The parser accepts exactly the sentences of the grammar and rejects all other token lists with
an error. A list is a sentence for one statement at most, and that is the statement it is parsed
as. -/
theorem Select.parse_eq_ok_iff (ts : List Token) :
    (Terminated ts →
      (∀ s, (Select.parse ts).1 = .ok s ↔ Sentence ts s) ∧
      ((∀ s, ¬ Sentence ts s) → ∃ e, (Select.parse ts).1 = .error e)) ∧
    ∀ s s', Sentence ts s → Sentence ts s' → s = s' := by
  refine ⟨fun hts => ⟨fun s => ⟨hts.sentence, Sentence.parse⟩, fun hnone => ?_⟩, ?_⟩
  · cases hparse : (Select.parse ts).1 with
    | error e => exact ⟨e, rfl⟩
    | ok s => exact absurd (hts.sentence hparse) (hnone s)
  · intro s s' h h'
    exact Except.ok.inj (h.parse.symm.trans h'.parse)

theorem Select.parse_eq_ok_iff_mixed :
    Sentence (([.keyword .select, .identifier "a", .keyword .from_, .identifier "t",
        .keyword .where_, .keyword .not, .identifier "a", .symbol .minus, .symbol .minus,
        .placeholder .positional, .symbol .star, .number "2", .symbol .equal,
        .placeholder .positional, .keyword .or, .identifier "b", .keyword .is, .keyword .not,
        .keyword .null, .symbol .semicolon] : List Token) ++ [.eof])
      ⟨.columns ["a"], "t", some (.logic .or
        (.not (.compare .eq
          (.arith .sub (.column "a")
            (.arith .mul (.negate (.placeholder (.positional 0))) (.literal (.int32 2))))
          (.placeholder (.positional 1))))
        (.isNull true (.column "b")))⟩ := by
  refine (((Select.parse_eq_ok_iff _).1 ⟨⟨_, rfl, by decide⟩, ?_⟩).1 _).1 (by cbv)
  intro digits hdigits
  obtain rfl : digits = "2" := by simpa using hdigits
  exact ⟨by decide, by simp⟩

end PredicateSql
