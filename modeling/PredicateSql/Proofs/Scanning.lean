import Mathlib
import PredicateSql.Fragment
import PredicateSql.Operator
import PredicateSql.Token.Lexer

/-!
# Reading text token by token

`Reads cs ts rest`: the characters `cs` give the tokens `ts` if `rest` follows them. Reading
composes (`Reads.append`), so that a text is read by its words. A word needs to know what
follows it: the end of the text, a blank, a closing parenthesis or a comma.
-/

namespace PredicateSql

namespace Lexer

/-- The characters `cs` read as the tokens `ts` where `rest` follows. -/
def Reads (cs : List Char) (ts : List Token) (rest : List Char) : Prop :=
  ∀ size, tokensFrom size (cs ++ rest) = (tokensFrom size rest).map (ts ++ ·)

/-- Whether a word that came before has come to its end. -/
def ends : List Char → Bool
  | [] => true
  | c :: _ => c == ' ' || c == ')' || c == ','

def stops (p : Char → Bool) : List Char → Bool
  | [] => true
  | c :: _ => !p c

/-- A name that needs no quotes: a word that is no keyword. -/
def isPlain (name : String) : Bool :=
  match name.toList with
  | [] => false
  | c :: cs => isWordStart c && cs.all isWordChar && (keyword? (c :: cs)).isNone

-- ---------------------------------------------------------------------------
-- One token after the other
-- ---------------------------------------------------------------------------

variable {size : Nat} {c : Char} {cs ds rest : List Char} {t : Token} {ts us : List Token}

theorem tokensFrom_of_next (h : next? size cs = .ok (some (t, rest))) :
    tokensFrom size cs = (tokensFrom size rest).map (t :: ·) := by
  rw [tokensFrom]
  split <;> simp_all

theorem tokensFrom_of_end (h : next? size cs = .ok none) : tokensFrom size cs = .ok [.eof] := by
  rw [tokensFrom]
  split <;> simp_all

theorem tokensFrom_congr (h : next? size cs = next? size ds) :
    tokensFrom size cs = tokensFrom size ds := by
  rw [tokensFrom, tokensFrom]
  split <;> split <;> simp_all

theorem skip_of_not_blank (hb : Text.isBlank c = false) (hc : c ≠ '-') :
    skip false (c :: cs) = c :: cs := by
  simp [skip, hb, hc]

@[simp] theorem tokensFrom_nil : tokensFrom size [] = .ok [.eof] :=
  tokensFrom_of_end rfl

namespace Reads

theorem nil : Reads [] [] rest := by
  intro size
  cases h : tokensFrom size rest <;> simp [h, Except.map]

theorem append (h : Reads cs ts (ds ++ rest)) (h' : Reads ds us rest) :
    Reads (cs ++ ds) (ts ++ us) rest := by
  intro size
  rw [List.append_assoc, h size, h' size]
  cases tokensFrom size rest <;> simp [Except.map]

theorem token (hs : skip false (c :: (cs ++ rest)) = c :: (cs ++ rest))
    (h : ∀ size, Lexer.token size c (cs ++ rest) = .ok (t, rest)) :
    Reads (c :: cs) [t] rest := by
  intro size
  refine tokensFrom_of_next ?_
  rw [next?, List.cons_append, hs]
  simp [h size, Except.map]

theorem blank : Reads [' '] [] rest := by
  intro size
  have hblank : Text.isBlank ' ' = true := by decide
  have hskip : skip false (' ' :: rest) = skip false rest := by simp [skip, hblank]
  have hnext : next? size (' ' :: rest) = next? size rest := by rw [next?, hskip, next?]
  rw [List.singleton_append, tokensFrom_congr hnext]
  cases tokensFrom size rest <;> simp [Except.map]

theorem scan {text : String} (h : Reads text.toList ts []) :
    Token.scan text = .ok (ts ++ [.eof]) := by
  simpa [Token.scan, Except.map] using h text.toList.length

theorem between {as bs word : List Char} (ha : ∀ rest, ends rest = true → Reads as ts rest)
    (hw : ∀ rest, ends rest = true → Reads word [t] rest) (hb : Reads bs us rest) :
    Reads (as ++ ([' '] ++ (word ++ ([' '] ++ bs)))) (ts ++ t :: us) rest := by
  have hright : Reads ([' '] ++ (word ++ ([' '] ++ bs))) (t :: us) rest :=
    blank.append ((hw _ rfl).append (blank.append hb))
  exact (ha _ rfl).append hright

end Reads

-- ---------------------------------------------------------------------------
-- Words
-- ---------------------------------------------------------------------------

def blanks : List Nat :=
  [0x9, 0xA, 0xB, 0xC, 0xD, 0x20, 0x85, 0xA0, 0x1680, 0x2000, 0x2001, 0x2002, 0x2003, 0x2004,
   0x2005, 0x2006, 0x2007, 0x2008, 0x2009, 0x200A, 0x2028, 0x2029, 0x202F, 0x205F, 0x3000]

theorem toNat_mem_blanks (h : Text.isBlank c = true) : c.toNat ∈ blanks := by
  simp only [Text.isBlank, Text.inRanges, Text.blankRanges, Bool.and_eq_true, Bool.or_eq_true,
    decide_eq_true_eq, Bool.false_eq_true, or_false] at h
  simp only [blanks, List.mem_cons, List.not_mem_nil, or_false]
  omega

theorem isWordChar_of_isBlank (h : Text.isBlank c = true) : isWordChar c = false := by
  have hall : ∀ n ∈ blanks, isWordChar (Char.ofNat n) = false := by decide +kernel
  simpa using hall c.toNat (toNat_mem_blanks h)

theorem isWordChar_of_isWordStart (h : isWordStart c = true) : isWordChar c = true := by
  simp only [isWordStart, Bool.or_eq_true] at h
  rcases h with h | h <;> simp [isWordChar, h]

theorem isWordChar_of_isDigit (h : c.isDigit = true) : isWordChar c = true := by
  have hlt : c.toNat < 128 := by
    have hle : c.toNat ≤ 57 := (Char.isDigit_iff_toNat.1 h).2
    omega
  simp [isWordChar, Text.isNumeric, hlt, h]

theorem isBlank_of_isWordChar (h : isWordChar c = true) : Text.isBlank c = false := by
  cases hb : Text.isBlank c with
  | false => rfl
  | true => exact absurd h (by simp [isWordChar_of_isBlank hb])

theorem ne_of_isWordChar {d : Char} (h : isWordChar c = true) (hd : isWordChar d = false) :
    c ≠ d := by
  rintro rfl
  exact absurd h (by simp [hd])

theorem skip_of_isWordChar (h : isWordChar c = true) : skip false (c :: cs) = c :: cs :=
  skip_of_not_blank (isBlank_of_isWordChar h) (ne_of_isWordChar h (by decide))

theorem symbol?_of_isWordChar (h : isWordChar c = true) : symbol? c cs = none := by
  fun_cases symbol? c cs with
  | case17 => rfl
  | _ => exact absurd h (by decide)

theorem token_of_isWordChar (h : isWordChar c = true) :
    token size c cs =
      if isWordStart c then .ok (word (c :: cs.takeWhile isWordChar), cs.dropWhile isWordChar)
      else if c.isDigit then
        .ok (.number (String.ofList (c :: cs.takeWhile Char.isDigit)), cs.dropWhile Char.isDigit)
      else .error (.unexpected c (position size (c :: cs))) := by
  have hne : ∀ d : Char, isWordChar d = false → c ≠ d := fun d => ne_of_isWordChar h
  simp [token, symbol?_of_isWordChar h, hne '?' (by decide), hne '$' (by decide),
    hne '@' (by decide), hne '\x27' (by decide), hne '\x22' (by decide)]

theorem stops_of_ends {p : Char → Bool} (hp : p ' ' = false ∧ p ')' = false ∧ p ',' = false)
    (h : ends rest = true) : stops p rest = true := by
  cases rest with
  | nil => rfl
  | cons c cs =>
    simp only [ends, Bool.or_eq_true, beq_iff_eq] at h
    rcases h with (rfl | rfl) | rfl
    · simp [stops, hp.1]
    · simp [stops, hp.2.1]
    · simp [stops, hp.2.2]

theorem takeWhile_append_of_stops {p : Char → Bool} (hcs : ∀ c ∈ cs, p c = true)
    (h : stops p rest = true) :
    (cs ++ rest).takeWhile p = cs ∧ (cs ++ rest).dropWhile p = rest := by
  rw [List.takeWhile_append_of_pos hcs, List.dropWhile_append_of_pos hcs]
  cases rest with
  | nil => simp
  | cons c cs =>
    have hc : p c = false := by simpa [stops] using h
    simp [hc]

theorem Reads.word (hc : isWordStart c = true) (hcs : ∀ c ∈ cs, isWordChar c = true)
    (h : stops isWordChar rest = true) : Reads (c :: cs) [Lexer.word (c :: cs)] rest := by
  have hword := isWordChar_of_isWordStart hc
  refine Reads.token (skip_of_isWordChar hword) fun size => ?_
  obtain ⟨htake, hdrop⟩ := takeWhile_append_of_stops hcs h
  rw [token_of_isWordChar hword, if_pos hc, htake, hdrop]

theorem Reads.plain {name : String} (hn : isPlain name = true) (h : ends rest = true) :
    Reads name.toList [.identifier name] rest := by
  unfold isPlain at hn
  split at hn
  next => cases hn
  next c cs hname =>
    simp only [Bool.and_eq_true, Option.isNone_iff_eq_none, List.all_eq_true] at hn
    obtain ⟨⟨hc, hcs⟩, hk⟩ := hn
    have hword : Lexer.word (c :: cs) = .identifier name := by
      rw [Lexer.word, hk, ← hname]
      simp
    rw [hname, ← hword]
    exact Reads.word hc hcs (stops_of_ends (by decide) h)

theorem isAlpha_iff_toNat :
    c.isAlpha = true ↔ 65 ≤ c.toNat ∧ c.toNat ≤ 90 ∨ 97 ≤ c.toNat ∧ c.toNat ≤ 122 := by
  simp only [Char.isAlpha, Char.isUpper, Char.isLower, Bool.or_eq_true, Bool.and_eq_true,
    decide_eq_true_eq, ge_iff_le, UInt32.le_iff_toNat_le]
  rfl

theorem isWordStart_of_isAlpha (h : c.isAlpha = true) : isWordStart c = true := by
  have hlt : c.toNat < 128 := by
    have hrange := isAlpha_iff_toNat.1 h
    omega
  simp [isWordStart, Text.isAlphabetic, hlt, h]

theorem isAlpha_of_isUpper_toUpper (h : c.toUpper.isUpper = true) : c.isAlpha = true := by
  cases hlower : c.isLower with
  | true => simp [Char.isAlpha, hlower]
  | false =>
    rw [Char.toUpper_eq_of_not_isLower (by simp [hlower])] at h
    simp [Char.isAlpha, h]

theorem upper_of_isUpper_toUpper (h : c.toUpper.isUpper = true) : upper c = c.toUpper := by
  fun_cases upper c with
  | case3 => rfl
  | _ => exact absurd h (by decide)

theorem keyword?_spelling (k : Keyword) : (Keyword.all.find? fun k' =>
    k'.spelling.toList == k.spelling.toList) = some k := by
  cases k <;> decide

theorem Reads.keywordOfCase {word : List Char} {k : Keyword}
    (hk : word.map Char.toUpper = k.spelling.toList) (h : stops isWordChar rest = true) :
    Reads word [.keyword k] rest := by
  have hspelling : k.spelling.toList.all Char.isUpper = true ∧ k.spelling.toList ≠ [] := by
    cases k <;> decide
  rw [← hk, List.all_map, List.all_eq_true] at hspelling
  obtain ⟨hupper, hne⟩ := hspelling
  have hword : Lexer.word word = .keyword k := by
    have hmap : word.map upper = k.spelling.toList := by
      rw [← hk]
      exact List.map_congr_left fun c hc => upper_of_isUpper_toUpper (hupper c hc)
    rw [Lexer.word, keyword?, hmap, keyword?_spelling]
  have hstart : ∀ c ∈ word, isWordStart c = true := fun c hc =>
    isWordStart_of_isAlpha (isAlpha_of_isUpper_toUpper (hupper c hc))
  cases word with
  | nil => exact absurd rfl hne
  | cons c cs =>
    rw [← hword]
    exact Reads.word (hstart c (by simp)) (fun c hc =>
      isWordChar_of_isWordStart (hstart c (List.mem_cons_of_mem _ hc))) h

theorem Reads.keyword (k : Keyword) (h : ends rest = true) :
    Reads k.spelling.toList [.keyword k] rest :=
  Reads.keywordOfCase (by cases k <;> decide) (stops_of_ends (by decide) h)

end Lexer

-- ---------------------------------------------------------------------------
-- Symbols
-- ---------------------------------------------------------------------------

/-- How symbols are written; `!=` is read as `<>` too. -/
def Symbol.spelling : Symbol → String
  | .plus => "+"
  | .minus => "-"
  | .star => "*"
  | .slash => "/"
  | .percent => "%"
  | .equal => "="
  | .notEqual => "<>"
  | .less => "<"
  | .greater => ">"
  | .lessEqual => "<="
  | .greaterEqual => ">="
  | .leftParen => "("
  | .rightParen => ")"
  | .comma => ","
  | .semicolon => ";"

def CompareOp.symbol : CompareOp → Symbol
  | .eq => .equal
  | .ne => .notEqual
  | .lt => .less
  | .le => .lessEqual
  | .gt => .greater
  | .ge => .greaterEqual

def ArithOp.symbol : ArithOp → Symbol
  | .add => .plus
  | .sub => .minus
  | .mul => .star
  | .div => .slash
  | .mod => .percent

def LogicOp.keyword : LogicOp → Keyword
  | .and => .and
  | .or => .or

theorem CompareOp.spelling_symbol (op : CompareOp) : op.symbol.spelling = op.sql := by
  cases op <;> rfl

theorem ArithOp.spelling_symbol (op : ArithOp) : op.symbol.spelling = op.sql := by
  cases op <;> rfl

theorem LogicOp.spelling_keyword (op : LogicOp) : op.keyword.spelling = op.sql := by
  cases op <;> rfl

namespace Lexer

variable {rest : List Char}

theorem ends_cases (h : ends rest = true) :
    rest = [] ∨ ∃ cs, rest = ' ' :: cs ∨ rest = ')' :: cs ∨ rest = ',' :: cs := by
  cases rest with
  | nil => exact .inl rfl
  | cons c cs => exact .inr ⟨cs, by simpa [ends, or_assoc] using h⟩

/-- Longer symbols start with shorter ones, and two minus signs start a comment: neither can
happen where a word ends. -/
theorem Reads.symbol (s : Symbol) (h : ends rest = true) :
    Reads s.spelling.toList [.symbol s] rest := by
  rcases ends_cases h with rfl | ⟨cs, rfl | rfl | rfl⟩ <;>
    cases s <;> exact Reads.token rfl fun _ => rfl

theorem Reads.compareOp (op : CompareOp) (h : ends rest = true) :
    Reads op.sql.toList [.symbol op.symbol] rest :=
  op.spelling_symbol ▸ Reads.symbol op.symbol h

theorem Reads.arithOp (op : ArithOp) (h : ends rest = true) :
    Reads op.sql.toList [.symbol op.symbol] rest :=
  op.spelling_symbol ▸ Reads.symbol op.symbol h

theorem Reads.logicOp (op : LogicOp) (h : ends rest = true) :
    Reads op.sql.toList [.keyword op.keyword] rest :=
  op.spelling_keyword ▸ Reads.keyword op.keyword h

theorem Reads.leftParen : Reads ['('] [.symbol .leftParen] rest :=
  Reads.token (skip_of_not_blank (by decide) (by decide)) fun _ => rfl

end Lexer

-- ---------------------------------------------------------------------------
-- Placeholders
-- ---------------------------------------------------------------------------

def Style.marker : Style → Nat → Marker
  | .question, _ => .positional
  | .numbered, index => .numbered (index + 1)
  | .named, index => .named ("p" ++ toString index)

/-- Whether `count` slots can be told apart. The numbers of slots are words of 64 bits, which no
list of values in memory runs out of. -/
def Style.Covers (style : Style) (count : Nat) : Prop :=
  style = .numbered → count < 18446744073709551616

instance (style : Style) (count : Nat) : Decidable (style.Covers count) :=
  inferInstanceAs (Decidable (style = .numbered → count < 18446744073709551616))

theorem Style.Covers.mono {style : Style} {m n : Nat} (h : style.Covers n) (hle : m ≤ n) :
    style.Covers m :=
  fun hs => Nat.lt_of_le_of_lt hle (h hs)

namespace Lexer

variable {rest : List Char}

theorem isDigit_of_mem_toDigits (n : Nat) : ∀ c ∈ Nat.toDigits 10 n, c.isDigit = true :=
  fun _ hc => Nat.isDigit_of_mem_toDigits (by decide) (by decide) hc

theorem Reads.positional : Reads "?".toList [.placeholder .positional] rest :=
  Reads.token (skip_of_not_blank (by decide) (by decide)) fun _ => rfl

theorem Reads.numbered {n : Nat} (hn : 0 < n ∧ n < 18446744073709551616) (h : ends rest = true) :
    Reads ("$" ++ toString n).toList [.placeholder (.numbered n)] rest := by
  have htext : ("$" ++ toString n).toList = '$' :: Nat.toDigits 10 n := by
    simp [Nat.toString_eq_repr]
  rw [htext]
  refine Reads.token (skip_of_not_blank (by decide) (by decide)) fun size => ?_
  obtain ⟨htake, hdrop⟩ := takeWhile_append_of_stops (isDigit_of_mem_toDigits n)
    (stops_of_ends (by decide) h)
  show Lexer.numbered (Nat.toDigits 10 n ++ rest) = _
  simp [Lexer.numbered, htake, hdrop, Nat.ofDigitChars_ten_toDigits, hn]

theorem Reads.named {name : String} (hne : name ≠ "")
    (hname : ∀ c ∈ name.toList, isWordChar c = true) (h : ends rest = true) :
    Reads ("@" ++ name).toList [.placeholder (.named name)] rest := by
  have htext : ("@" ++ name).toList = '@' :: name.toList := by simp
  rw [htext]
  refine Reads.token (skip_of_not_blank (by decide) (by decide)) fun size => ?_
  obtain ⟨htake, hdrop⟩ := takeWhile_append_of_stops hname (stops_of_ends (by decide) h)
  show Lexer.named size (name.toList ++ rest) = _
  rw [Lexer.named, htake, hdrop]
  simp [hne]

theorem Reads.spell {style : Style} {index : Nat} (hs : style.Covers (index + 1))
    (h : ends rest = true) :
    Reads (style.spell index).toList [.placeholder (style.marker index)] rest := by
  cases style with
  | question => exact Reads.positional
  | numbered => exact Reads.numbered ⟨Nat.succ_pos index, hs rfl⟩ h
  | named =>
    have htext : Style.named.spell index = "@" ++ ("p" ++ toString index) := by
      rw [Style.spell, ← String.append_assoc]
      rfl
    have hname : ∀ c ∈ ("p" ++ toString index).toList, isWordChar c = true := by
      intro c hc
      obtain rfl | hc : c = 'p' ∨ c ∈ Nat.toDigits 10 index := by
        simpa [Nat.toString_eq_repr] using hc
      · decide
      · exact isWordChar_of_isDigit (isDigit_of_mem_toDigits index c hc)
    rw [htext]
    exact Reads.named (by simp) hname h

end Lexer

end PredicateSql
