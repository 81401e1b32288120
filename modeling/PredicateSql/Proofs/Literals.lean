import PredicateSql.Proofs.Lines

/-!
# Values as literals

A value written as a literal in the place of an operand. `phrase_fill`: where a placeholder is
compared with something, any operand may be written in its place and the rest of the condition stays
as it is. The least integer is the only value without a literal, for its digits alone are beyond the
range.
-/

namespace PredicateSql

open PredicateSql.Lexer PredicateSql.Grammar PredicateSql.Parser

-- ---------------------------------------------------------------------------
-- Integers in decimal
-- ---------------------------------------------------------------------------

theorem Text.toList_toString_int (i : Int) :
    (toString i).toList = (if i < 0 then ['-'] else []) ++ Nat.toDigits 10 i.natAbs := by
  cases i with
  | ofNat n => simp [Int.toString_eq_repr, Int.repr]
  | negSucc n => simp [Int.toString_eq_repr, Int.repr]

theorem Text.ofNat_natAbs_of_nonneg {n : Int32} (h : 0 ≤ n.toInt) :
    Int32.ofNat n.toInt.natAbs = n := by
  rw [← Int32.ofInt_eq_ofNat, Int.natAbs_of_nonneg h, Int32.ofInt_toInt]

theorem Text.ofNat_natAbs_of_neg {n : Int32} (h : n.toInt < 0) :
    Int32.ofNat n.toInt.natAbs = -n := by
  have hcast : (n.toInt.natAbs : Int) = -n.toInt := by omega
  rw [← Int32.ofInt_eq_ofNat, hcast, Int32.ofInt_neg, Int32.ofInt_toInt]

theorem Grammar.IsNumeral.head?_ne_minus {digits : String} (h : IsNumeral digits)
    (rest : List Char) :
    (digits.toList ++ rest).head? ≠ some '-' := by
  intro hminus
  cases hchars : digits.toList with
  | nil => exact h.1 (String.toList_eq_nil_iff.1 hchars)
  | cons c cs =>
    rw [hchars] at hminus
    obtain rfl : c = '-' := by simpa using hminus
    exact absurd (h.2 '-' (hchars ▸ List.mem_cons_self)) (by decide)

theorem Grammar.isNumeral_toString (n : Nat) : IsNumeral (toString n) := by
  refine ⟨fun hempty => ?_, fun c hc => ?_⟩
  · have hdigits := congrArg String.toList hempty
    simp [Nat.toString_eq_repr] at hdigits
  · rw [Nat.toString_eq_repr, Nat.toList_repr] at hc
    exact isDigit_of_mem_toDigits n c hc

theorem Grammar.numeral_toString (n : Nat) : numeral (toString n) = n := by
  rw [numeral, Nat.toString_eq_repr, Nat.toList_repr, Nat.ofDigitChars_ten_toDigits]

-- ---------------------------------------------------------------------------
-- Literals
-- ---------------------------------------------------------------------------

namespace Value

def literal : Value → String
  | .null => "NULL"
  | .boolean true => "TRUE"
  | .boolean false => "FALSE"
  | .int32 n => toString n.toInt
  | .string s => "\x27" ++ String.ofList (doubled s.toList) ++ "\x27"

def literalTokens : Value → List Token
  | .null => [.keyword .null]
  | .boolean true => [.keyword .true]
  | .boolean false => [.keyword .false]
  | .int32 n => (if n.toInt < 0 then [.symbol .minus] else []) ++
      [.number (toString n.toInt.natAbs)]
  | .string s => [.string s]

/-- What a literal is parsed as: a sign is an operator of its own. -/
def literalTree {ρ : Type} : Value → Condition ρ
  | .int32 n => if n.toInt < 0 then .negate (.literal (.int32 (-n))) else .literal (.int32 n)
  | v => .literal v

def continues : Value → Char → Bool
  | .null | .boolean _ => isWordChar
  | .int32 _ => Char.isDigit
  | .string _ => (· == '\x27')

theorem literal_ne_nil (v : Value) : v.literal.toList ≠ [] := by
  cases v with
  | null => decide
  | boolean b => cases b <;> decide
  | int32 n =>
    rw [literal, Text.toList_toString_int]
    simp
  | string s => simp [literal]

theorem eval_literalTree {ρ : Type} (v : Value) (env : Env ρ) : v.literalTree.eval env = .ok v := by
  cases v with
  | int32 n =>
    simp only [literalTree]
    split
    · show Except.ok (Value.int32 (- -n)) = _
      rw [Int32.neg_neg]
    · rfl
  | _ => rfl

end Value

theorem Lexer.Reads.minus {rest : List Char} (h : rest.head? ≠ some '-') :
    Reads ['-'] [.symbol .minus] rest := by
  have hblank : Text.isBlank '-' = false := by decide
  exact Reads.token (by simp [skip, hblank, h]) fun _ => rfl

theorem Lexer.Reads.literal (v : Value) {rest : List Char} (h : stops v.continues rest = true) :
    Reads v.literal.toList v.literalTokens rest := by
  cases v with
  | null => exact Reads.keywordOfCase (by decide) h
  | boolean b =>
    cases b with
    | true => exact Reads.keywordOfCase (by decide) h
    | false => exact Reads.keywordOfCase (by decide) h
  | int32 n =>
    have hdigits := isNumeral_toString n.toInt.natAbs
    have hnumber := Reads.number hdigits.1 hdigits.2 h
    have htext : (Value.int32 n).literal.toList =
        (if n.toInt < 0 then ['-'] else []) ++ (toString n.toInt.natAbs).toList := by
      rw [Nat.toString_eq_repr, Nat.toList_repr]
      exact Text.toList_toString_int n.toInt
    rw [htext, Value.literalTokens]
    split
    · exact (Reads.minus (hdigits.head?_ne_minus rest)).append hnumber
    · exact hnumber
  | string s => exact Reads.string s h

-- ---------------------------------------------------------------------------
-- Phrases
-- ---------------------------------------------------------------------------

namespace Grammar

theorem Phrase.mono {s s' : Strength} {k : Nat} {ts : List Token} {c : Condition Reference}
    (h : Phrase s k ts c) (hle : s.rank ≤ s'.rank) : Phrase s' k ts c := by
  by_cases heq : s.rank = s'.rank
  · exact Strength.eq_of_rank_eq heq ▸ h
  · refine .ofStronger (mono h ?_)
    rw [Strength.rank_stronger]
    omega
termination_by s'.rank
decreasing_by
  rw [Strength.rank_stronger]
  omega

/-- A literal is an operand of any comparison, unless its digits are beyond the range. -/
theorem phrase_literal {v : Value} (hv : v ≠ .int32 (-2147483648)) (k : Nat) :
    Phrase .unary k v.literalTokens v.literalTree := by
  cases v with
  | null => exact .ofStronger .null
  | boolean b =>
    cases b with
    | true => exact .ofStronger .true
    | false => exact .ofStronger .false
  | int32 n =>
    have hle : numeral (toString n.toInt.natAbs) ≤ 2147483647 := by
      rw [numeral_toString]
      have hlt := n.toInt_lt
      have hge := n.le_toInt
      have hne : n.toInt ≠ -2147483648 := by
        intro hmin
        refine hv (congrArg Value.int32 (Int32.toInt_inj.1 ?_))
        rw [hmin]
        rfl
      omega
    have hnumber : Phrase .unary k [.number (toString n.toInt.natAbs)]
        (.literal (.int32 (.ofNat n.toInt.natAbs))) := by
      have hphrase := Phrase.number (k := k) (isNumeral_toString n.toInt.natAbs) hle
      rw [numeral_toString] at hphrase
      exact .ofStronger hphrase
    rw [Value.literalTokens, Value.literalTree]
    split
    next hneg =>
      rw [Text.ofNat_natAbs_of_neg hneg] at hnumber
      exact .negate hnumber
    next hnonneg =>
      rw [Text.ofNat_natAbs_of_nonneg (not_lt.1 hnonneg)] at hnumber
      exact hnumber
  | string s => exact .ofStronger .string

end Grammar

-- ---------------------------------------------------------------------------
-- Operands in the place of a placeholder
-- ---------------------------------------------------------------------------

namespace Condition

def fill (c : Condition Reference) (name : String) (operand : Condition Reference) :
    Condition Reference :=
  match c with
  | .column n => .column n
  | .literal v => .literal v
  | .placeholder r => if r = .named name then operand else .placeholder r
  | .compare op left right => .compare op (left.fill name operand) (right.fill name operand)
  | .arith op left right => .arith op (left.fill name operand) (right.fill name operand)
  | .logic op left right => .logic op (left.fill name operand) (right.fill name operand)
  | .not inner => .not (inner.fill name operand)
  | .negate inner => .negate (inner.fill name operand)
  | .isNull negated inner => .isNull negated (inner.fill name operand)

theorem fill_hole (name : String) (operand : Condition Reference) :
    fill (.placeholder (.named name)) name operand = operand := by
  simp [fill]

/-- Whether the named placeholder stands nowhere but on one side of a comparison. -/
def onlyCompares (name : String) : Condition Reference → Bool
  | .column _ | .literal _ => true
  | .placeholder r => r != .named name
  | .compare _ left right =>
    (left == .placeholder (.named name) || left.onlyCompares name) &&
      (right == .placeholder (.named name) || right.onlyCompares name)
  | .arith _ left right | .logic _ left right => left.onlyCompares name && right.onlyCompares name
  | .not inner | .negate inner | .isNull _ inner => inner.onlyCompares name

end Condition

def Select.fill (s : Select Reference) (name : String) (operand : Condition Reference) :
    Select Reference :=
  { s with filter := s.filter.map (·.fill name operand) }

def Token.fill (name : String) (operand ts : List Token) : List Token :=
  ts.flatMap fun t => if t = .placeholder (.named name) then operand else [t]

namespace Token

variable {name : String} {operand ts us : List Token}

@[simp] theorem fill_nil : fill name operand [] = [] := rfl

@[simp] theorem fill_append :
    fill name operand (ts ++ us) = fill name operand ts ++ fill name operand us :=
  List.flatMap_append

theorem fill_hole : fill name operand [.placeholder (.named name)] = operand := by
  simp [fill]

theorem fill_cons_of_ne {t : Token} (h : t ≠ .placeholder (.named name)) :
    fill name operand (t :: ts) = t :: fill name operand ts := by
  simp [fill, h]

theorem fill_of_not_mem (h : Token.placeholder (.named name) ∉ ts) : fill name operand ts = ts := by
  induction ts with
  | nil => rfl
  | cons t ts ih =>
    rw [List.mem_cons, not_or] at h
    rw [fill_cons_of_ne (Ne.symm h.1), ih h.2]

end Token

namespace Grammar

open Token

variable {s s' : Strength} {k : Nat} {name : String} {operand ts : List Token}
  {c c' : Condition Reference}

theorem bare_fill (hbare : bare operand = 0) (ts : List Token) :
    bare (fill name operand ts) = bare ts := by
  induction ts with
  | nil => rfl
  | cons t ts ih =>
    have hcons : fill name operand (t :: ts) = fill name operand [t] ++ fill name operand ts := by
      rw [← fill_append, List.singleton_append]
    have hhead : bare (fill name operand [t]) = bare [t] := by
      by_cases ht : t = .placeholder (.named name)
      · rw [ht, fill_hole, hbare]
        rfl
      · rw [fill_cons_of_ne ht, fill_nil]
    rw [bare, hcons, List.count_append]
    simp only [bare] at ih hhead ⊢
    rw [ih, hhead, ← List.count_append]
    rfl

/-- A placeholder by itself may stand in parentheses, and so may what comes in its place. -/
theorem phrase_fill_hole (hoperand : ∀ k, Phrase .unary k operand c')
    (h : Phrase s k ts (.placeholder (.named name))) (hle : s.rank ≤ s'.rank)
    (hunary : Strength.unary.rank ≤ s'.rank) : Phrase s' k (fill name operand ts) c' := by
  generalize hc : Condition.placeholder (Reference.named name) = c at h
  induction h generalizing s' with
  | named =>
    cases hc
    rw [Token.fill_hole]
    exact (hoperand _).mono hunary
  | parens _ ih =>
    have hinner : Phrase .disjunction _ (fill name operand _) c' :=
      ih (Nat.le_refl _) (by decide) hc
    rw [fill_cons_of_ne (by simp), fill_append, fill_cons_of_ne (by simp), fill_nil]
    exact (Phrase.parens hinner).mono hle
  | @ofStronger s _ _ _ _ ih =>
    refine ih ?_ hunary hc
    rw [Strength.rank_stronger]
    omega
  | _ => cases hc

theorem phrase_fill (hoperand : ∀ k, Phrase .unary k operand c') (hbare : bare operand = 0)
    (h : Phrase s k ts c) (hc : c.onlyCompares name = true) :
    Phrase s k (fill name operand ts) (c.fill name c') := by
  induction h with
  | number hdigits hle => exact .number hdigits hle
  | string => exact .string
  | true => exact .true
  | false => exact .false
  | null => exact .null
  | column => exact .column
  | positional => exact .positional
  | numbered => exact .numbered
  | @named k n =>
    have hn : n ≠ name := by simpa [Condition.onlyCompares] using hc
    rw [fill_cons_of_ne (by simpa using hn), fill_nil, Condition.fill, if_neg (by simpa using hn)]
    exact .named
  | parens _ ih =>
    rw [fill_cons_of_ne (by simp), fill_append, fill_cons_of_ne (by simp), fill_nil]
    exact .parens (ih hc)
  | negate _ ih =>
    rw [fill_cons_of_ne (by simp)]
    exact .negate (ih hc)
  | not _ ih =>
    rw [fill_cons_of_ne (by simp)]
    exact .not (ih hc)
  | isNull _ ih =>
    rw [fill_append]
    exact .isNull (ih hc)
  | isNotNull _ ih =>
    rw [fill_append]
    exact .isNotNull (ih hc)
  | product hop _ _ ihl ihr =>
    obtain ⟨hl, hr⟩ := Bool.and_eq_true_iff.1 hc
    rw [fill_append, fill_cons_of_ne (by simp)]
    exact .product hop (ihl hl) (by rw [bare_fill hbare]; exact ihr hr)
  | sum hop _ _ ihl ihr =>
    obtain ⟨hl, hr⟩ := Bool.and_eq_true_iff.1 hc
    rw [fill_append, fill_cons_of_ne (by simp)]
    exact .sum hop (ihl hl) (by rw [bare_fill hbare]; exact ihr hr)
  | compare hl hr ihl ihr =>
    obtain ⟨hcl, hcr⟩ := Bool.and_eq_true_iff.1 hc
    rw [Bool.or_eq_true, beq_iff_eq] at hcl hcr
    rw [fill_append, fill_cons_of_ne (by simp), Condition.fill]
    refine .compare ?_ ?_
    · rcases hcl with rfl | hcl
      · rw [Condition.fill_hole]
        exact phrase_fill_hole hoperand hl (Nat.le_refl _) (by decide)
      · exact ihl hcl
    · rw [bare_fill hbare]
      rcases hcr with rfl | hcr
      · rw [Condition.fill_hole]
        exact phrase_fill_hole hoperand hr (Nat.le_refl _) (by decide)
      · exact ihr hcr
  | and _ _ ihl ihr =>
    obtain ⟨hl, hr⟩ := Bool.and_eq_true_iff.1 hc
    rw [fill_append, fill_cons_of_ne (by simp)]
    exact .and (ihl hl) (by rw [bare_fill hbare]; exact ihr hr)
  | or _ _ ihl ihr =>
    obtain ⟨hl, hr⟩ := Bool.and_eq_true_iff.1 hc
    rw [fill_append, fill_cons_of_ne (by simp)]
    exact .or (ihl hl) (by rw [bare_fill hbare]; exact ihr hr)
  | ofStronger _ ih => exact .ofStronger (ih hc)

theorem mem_placeholders_of_phrase (h : Phrase s k ts c)
    (hmem : Token.placeholder (.named name) ∈ ts) : Reference.named name ∈ c.placeholders := by
  induction h with
  | number | string | true | false | null | column | positional | numbered => simp at hmem
  | named => simpa [Condition.placeholders] using hmem
  | parens _ ih | negate _ ih | not _ ih | isNull _ ih | isNotNull _ ih =>
    exact ih (by simpa using hmem)
  | product _ _ _ ihl ihr | sum _ _ _ ihl ihr | compare _ _ ihl ihr | and _ _ ihl ihr
  | or _ _ ihl ihr =>
    rw [Condition.placeholders, List.mem_append]
    exact (List.mem_append.1 hmem).imp ihl fun hright => ihr (by simpa using hright)
  | ofStronger _ ih => exact ih hmem

theorem numeral_le_of_phrase {digits : String} (h : Phrase s k ts c)
    (hmem : .number digits ∈ ts) : numeral digits ≤ 2147483647 := by
  induction h with
  | number _ hle =>
    obtain rfl : digits = _ := by simpa using hmem
    exact hle
  | string | true | false | null | column | positional | numbered | named => simp at hmem
  | parens _ ih | negate _ ih | not _ ih | isNull _ ih | isNotNull _ ih =>
    exact ih (by simpa using hmem)
  | product _ _ _ ihl ihr | sum _ _ _ ihl ihr | compare _ _ ihl ihr | and _ _ ihl ihr
  | or _ _ ihl ihr =>
    rcases List.mem_append.1 hmem with hmem | hmem
    · exact ihl hmem
    · exact ihr (by simpa using hmem)
  | ofStronger _ ih => exact ih hmem

-- ---------------------------------------------------------------------------
-- Sentences
-- ---------------------------------------------------------------------------

variable {select : Select Reference}

theorem eq_of_mem_selection {ps : List Token} {p : Projection} {t : Token} (h : Selection ps p)
    (hmem : t ∈ ps) : (∃ sy, t = .symbol sy) ∨ ∃ n, t = .identifier n := by
  cases h with
  | all => exact .inl ⟨_, List.mem_singleton.1 hmem⟩
  | @columns names _ =>
    fun_induction Token.list names with
    | case1 => simp at hmem
    | case2 => exact .inr ⟨_, List.mem_singleton.1 hmem⟩
    | case3 => grind

def IsOperand (t : Token) : Prop :=
  (∃ m, t = .placeholder m) ∨ ∃ digits, t = .number digits

theorem not_mem_selection {ps : List Token} {p : Projection} {t : Token} (h : Selection ps p)
    (ht : IsOperand t) : t ∉ ps := by
  intro hmem
  rcases eq_of_mem_selection h hmem with ⟨_, rfl⟩ | ⟨_, rfl⟩ <;> simp [IsOperand] at ht

theorem Sentence.exists_phrase {t : Token} (h : Sentence ts select) (hmem : t ∈ ts)
    (ht : IsOperand t) : ∃ us c, select.filter = some c ∧ Phrase .disjunction 0 us c ∧ t ∈ us := by
  cases h with
  | @select ps ws es p table filter hselection hclause hes =>
    have hps := not_mem_selection hselection ht
    have hws : t ∈ ws := by
      rcases List.mem_pair.1 hes with rfl | rfl <;>
        rcases ht with ⟨m, rfl⟩ | ⟨digits, rfl⟩ <;> simpa [hps] using hmem
    cases hclause with
    | absent => simp at hws
    | @present us c hphrase =>
      refine ⟨us, c, rfl, hphrase, ?_⟩
      rcases ht with ⟨m, rfl⟩ | ⟨digits, rfl⟩ <;> simpa using hws

theorem Sentence.fill (hoperand : ∀ k, Phrase .unary k operand c') (hbare : bare operand = 0)
    (h : Sentence ts select) (hc : ∀ c ∈ select.filter, c.onlyCompares name = Bool.true) :
    Sentence (Token.fill name operand ts) (select.fill name c') := by
  cases h with
  | @select ps ws es p table filter hselection hclause hes =>
    have hps : Token.fill name operand ps = ps :=
      fill_of_not_mem (not_mem_selection hselection (.inl ⟨_, rfl⟩))
    have hend : Token.fill name operand es = es := by
      rcases List.mem_pair.1 hes with rfl | rfl <;> rfl
    have htail : Token.fill name operand [.eof] = [.eof] := rfl
    have hclause' : Clause (Token.fill name operand ws) (filter.map (·.fill name c')) := by
      cases hclause with
      | absent => exact .absent
      | present hphrase =>
        rw [fill_cons_of_ne (by simp)]
        exact .present (phrase_fill hoperand hbare hphrase (hc _ rfl))
    rw [fill_cons_of_ne (by simp), fill_append, hps, fill_cons_of_ne (by simp),
      fill_cons_of_ne (by simp), fill_append, fill_append, hend, htail]
    exact .select hselection hclause' hes

end Grammar

-- ---------------------------------------------------------------------------
-- Statements
-- ---------------------------------------------------------------------------

theorem Token.bare_literalTokens (v : Value) : bare v.literalTokens = 0 := by
  cases v with
  | null | string _ => rfl
  | boolean b => cases b <;> rfl
  | int32 n =>
    rw [Value.literalTokens]
    split <;> rfl

theorem Token.scan_literal (v : Value) {before after : String} {pre post : List Token}
    (hbefore : Token.scan before = .ok (pre ++ [.eof]))
    (hopen : Token.scan (before ++ "?") = .ok (pre ++ [Token.placeholder .positional, .eof]))
    (hafter : Token.scan after = .ok post)
    (hleft : apart before.toList v.literal.toList = true)
    (hright : stops v.continues after.toList = true) :
    Token.scan (before ++ v.literal ++ after) = .ok (pre ++ v.literalTokens ++ post) := by
  have htext : (before ++ v.literal ++ after).toList =
      before.toList ++ v.literal.toList ++ after.toList := by simp
  have hmore : apart before.toList (v.literal.toList ++ after.toList) = true :=
    apart_append hleft v.literal_ne_nil
  have hread : Reads (before.toList ++ v.literal.toList) (pre ++ v.literalTokens) after.toList :=
    (Reads.ofScan hbefore hopen hmore).append (Reads.literal v hright)
  rw [Token.scan] at hafter
  rw [Token.scan, htext, hread, List.length_append, tokensFrom_shift _ (Nat.le_refl _), hafter]
  rfl

theorem Grammar.terminated_hole {t : Token} {before after : String} {pre post : List Token}
    (hbefore : Token.scan before = .ok (pre ++ [.eof])) (hafter : Token.scan after = .ok post)
    (ht : Scanned t) : Terminated (pre ++ t :: post) := by
  obtain ⟨us, hpre, hpres⟩ := tokensFrom_eq_ok hbefore
  obtain rfl : pre = us := List.append_cancel_right hpre
  obtain ⟨us, rfl, hus⟩ := tokensFrom_eq_ok hafter
  have hscanned : ∀ t' ∈ pre ++ t :: us, Scanned t' := by
    intro t' ht'
    rcases List.mem_append.1 ht' with ht' | ht'
    · exact hpres t' ht'
    rcases List.mem_cons.1 ht' with rfl | ht'
    · exact ht
    · exact hus t' ht'
  refine ⟨⟨pre ++ t :: us, by simp, fun hmem => (hscanned _ hmem).ne_eof rfl⟩,
    fun digits hmem => ?_⟩
  exact (hscanned (.number digits) (by simpa using hmem)).numeral digits rfl

/-- Take a statement that compares something with a named placeholder, and write a value in its
place, where it does not run into what comes before it or after it. The text is scanned, and it is
parsed as the same statement with an operand in that place which has that value on every row. Only
the least integer has no such literal: the parser rejects it. -/
theorem Select.parse_literal (v : Value) (before after name : String) {pre post : List Token}
    {s : Select Reference} (hbefore : Token.scan before = .ok (pre ++ [.eof]))
    (hopen : Token.scan (before ++ "?") = .ok (pre ++ [Token.placeholder .positional, .eof]))
    (hafter : Token.scan after = .ok post)
    (hleft : apart before.toList v.literal.toList = true)
    (hright : stops v.continues after.toList = true)
    (hfresh : Token.placeholder (.named name) ∉ pre ++ post)
    (hparse : (Select.parse (pre ++ .placeholder (.named name) :: post)).1 = .ok s)
    (hcompared : ∀ c ∈ s.filter, c.onlyCompares name = true) :
    ∃ tokens c, Token.scan (before ++ v.literal ++ after) = .ok tokens ∧
      s.filter = some c ∧ .named name ∈ c.placeholders ∧
      (v ≠ .int32 (-2147483648) → ∃ operand,
        (Select.parse tokens).1 = .ok (s.fill name operand) ∧
        ∀ env : Env Reference, operand.eval env = .ok v) ∧
      (v = .int32 (-2147483648) → ∃ e, (Select.parse tokens).1 = .error e) := by
  have hsentence : Sentence (pre ++ .placeholder (.named name) :: post) s :=
    (terminated_hole hbefore hafter ⟨by simp, by simp⟩).sentence hparse
  obtain ⟨us, c, hfilter, hphrase, hmem⟩ := hsentence.exists_phrase
    (t := .placeholder (.named name)) (by simp) (.inl ⟨_, rfl⟩)
  refine ⟨pre ++ v.literalTokens ++ post, c, Token.scan_literal v hbefore hopen hafter hleft hright,
    hfilter, mem_placeholders_of_phrase hphrase hmem,
    fun hv => ⟨v.literalTree, ?_, v.eval_literalTree⟩, ?_⟩
  · obtain ⟨hpre, hpost⟩ : _ ∉ pre ∧ _ ∉ post := by simpa using hfresh
    have htokens : Token.fill name v.literalTokens (pre ++ .placeholder (.named name) :: post) =
        pre ++ v.literalTokens ++ post := by
      rw [← List.singleton_append, Token.fill_append, Token.fill_append, Token.fill_hole,
        Token.fill_of_not_mem hpre, Token.fill_of_not_mem hpost, List.append_assoc]
    have hfilled := hsentence.fill (phrase_literal hv) (Token.bare_literalTokens v) hcompared
    rw [htokens] at hfilled
    exact hfilled.parse
  · rintro rfl
    have hscan := Token.scan_literal (.int32 (-2147483648)) hbefore hopen hafter hleft hright
    cases hresult : (Select.parse _).1 with
    | error e => exact ⟨e, rfl⟩
    | ok s' =>
      have hdigits : .number "2147483648" ∈ (Value.int32 (-2147483648)).literalTokens := by decide
      obtain ⟨us', c', -, hphrase', hnumber⟩ :=
        ((terminated_of_scan hscan).sentence hresult).exists_phrase
          (t := .number "2147483648") (by simp [hdigits]) (.inr ⟨_, rfl⟩)
      exact absurd (numeral_le_of_phrase hphrase' hnumber) (by decide)

theorem Select.parse_literal_quotes :
    ∃ tokens operand, Token.scan ("SELECT * FROM t WHERE NOT (a <>" ++
        (Value.string "''-- ?").literal ++ ") OR b = ?;") = .ok tokens ∧
      (Select.parse tokens).1 = .ok ⟨.all, "t", some (.logic .or
        (.not (.compare .ne (.column "a") operand))
        (.compare .eq (.column "b") (.placeholder (.positional 0))))⟩ ∧
      ∀ env : Env Reference, operand.eval env = .ok (.string "''-- ?") := by
  have hparse : (Select.parse (([.keyword .select, .symbol .star, .keyword .from_, .identifier "t",
      .keyword .where_, .keyword .not, .symbol .leftParen, .identifier "a", .symbol .notEqual] :
        List Token) ++ .placeholder (.named "v") :: ([.symbol .rightParen, .keyword .or,
        .identifier "b", .symbol .equal, .placeholder .positional, .symbol .semicolon, .eof] :
        List Token))).1 =
      .ok ⟨.all, "t", some (.logic .or
        (.not (.compare .ne (.column "a") (.placeholder (.named "v"))))
        (.compare .eq (.column "b") (.placeholder (.positional 0))))⟩ := by cbv
  obtain ⟨tokens, c, hscan, -, -, haccepted, -⟩ := Select.parse_literal (.string "''-- ?")
    "SELECT * FROM t WHERE NOT (a <>" ") OR b = ?;" "v" (by cbv) (by cbv) (by cbv) (by decide)
    (by decide) (by decide) hparse (by decide)
  obtain ⟨operand, hfilled, heval⟩ := haccepted (by decide)
  exact ⟨tokens, operand, hscan, hfilled, heval⟩

/-- The least integer is printed as it is stored, but its literal is not accepted. -/
theorem Select.parse_least_literal :
    (Value.int32 (-2147483648)).literal = "-2147483648" ∧
    Token.scan ("SELECT * FROM t WHERE a =" ++ " " ++ (Value.int32 (-2147483648)).literal) =
      .ok [.keyword .select, .symbol .star, .keyword .from_, .identifier "t", .keyword .where_,
        .identifier "a", .symbol .equal, .symbol .minus, .number "2147483648", .eof] ∧
    (Select.parse [.keyword .select, .symbol .star, .keyword .from_, .identifier "t",
        .keyword .where_, .identifier "a", .symbol .equal, .symbol .minus, .number "2147483648",
        .eof]).1 = .error (.invalidInteger "2147483648") :=
  ⟨by cbv, by cbv, by cbv⟩

end PredicateSql
