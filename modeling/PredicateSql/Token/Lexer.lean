import PredicateSql.Text.Alphabetic
import PredicateSql.Text.Blank
import PredicateSql.Text.Numeric
import PredicateSql.Token

/-!
# From text to tokens

Tokens are read from the front of the text, with blanks and comments before each skipped.
Positions count characters from zero.
-/

namespace PredicateSql

inductive LexError
  | unexpected (c : Char) (position : Nat)
  | invalidNumber (digits : String)
  | emptyName (position : Nat)
  | unterminatedString
  | unterminatedIdentifier
deriving DecidableEq

def LexError.message : LexError → String
  | .unexpected c position =>
    "Unexpected character '" ++ c.toString ++ s!"' at position {position}"
  | .invalidNumber digits => s!"Invalid numbered placeholder '${digits}'"
  | .emptyName position => s!"Empty placeholder name at position {position}"
  | .unterminatedString => "Unterminated string literal"
  | .unterminatedIdentifier => "Unterminated quoted identifier"

namespace Lexer

def isWordStart (c : Char) : Bool :=
  Text.isAlphabetic c || c == '_'

def isWordChar (c : Char) : Bool :=
  Text.isAlphabetic c || Text.isNumeric c || c == '_'

/-- The upper-case form of a character where that is an ASCII letter. Beyond ASCII these are
the dotless `ı` and the long `ſ`; a ligature's upper-case letters stand in no keyword. -/
def upper (c : Char) : Char :=
  match c with
  | 'ı' => 'I'
  | 'ſ' => 'S'
  | c => c.toUpper

/-- Keywords are recognised in either case, letter by letter. -/
def keyword? (word : List Char) : Option Keyword :=
  Keyword.all.find? fun k => k.spelling.toList == word.map upper

def word (chars : List Char) : Token :=
  match keyword? chars with
  | some k => .keyword k
  | none => .identifier (String.ofList chars)

/-- Drops blanks and comments. A comment runs from `--` through the end of its line. -/
def skip : (inComment : Bool) → List Char → List Char
  | _, [] => []
  | true, c :: cs => skip (c != '\n') cs
  | false, c :: cs =>
    if Text.isBlank c then skip false cs
    else if c == '-' && cs.head? == some '-' then skip true cs
    else c :: cs

/-- The symbol that starts with `c`, the longer one where two do. -/
def symbol? : Char → List Char → Option (Symbol × List Char)
  | '<', '=' :: cs => some (.lessEqual, cs)
  | '<', '>' :: cs => some (.notEqual, cs)
  | '>', '=' :: cs => some (.greaterEqual, cs)
  | '!', '=' :: cs => some (.notEqual, cs)
  | '+', cs => some (.plus, cs)
  | '-', cs => some (.minus, cs)
  | '*', cs => some (.star, cs)
  | '/', cs => some (.slash, cs)
  | '%', cs => some (.percent, cs)
  | '=', cs => some (.equal, cs)
  | '<', cs => some (.less, cs)
  | '>', cs => some (.greater, cs)
  | '(', cs => some (.leftParen, cs)
  | ')', cs => some (.rightParen, cs)
  | ',', cs => some (.comma, cs)
  | ';', cs => some (.semicolon, cs)
  | _, _ => none

/-- The content of a string up to its closing quote. A doubled quote stands for one. -/
def stringBody? : List Char → Option (List Char × List Char)
  | [] => none
  | '\x27' :: '\x27' :: cs => (stringBody? cs).map fun (body, rest) => ('\x27' :: body, rest)
  | '\x27' :: cs => some ([], cs)
  | c :: cs => (stringBody? cs).map fun (body, rest) => (c :: body, rest)

def string (cs : List Char) : Except LexError (Token × List Char) :=
  match stringBody? cs with
  | some (body, rest) => .ok (.string (String.ofList body), rest)
  | none => .error .unterminatedString

/-- An identifier between double quotes is never a keyword. -/
def quotedIdentifier (cs : List Char) : Except LexError (Token × List Char) :=
  match cs.dropWhile (· != '\x22') with
  | _ :: rest => .ok (.identifier (String.ofList (cs.takeWhile (· != '\x22'))), rest)
  | [] => .error .unterminatedIdentifier

/-- The number of a placeholder counts from one and has at most 64 bits. -/
def numbered (cs : List Char) : Except LexError (Token × List Char) :=
  let digits := cs.takeWhile Char.isDigit
  let n := Nat.ofDigitChars 10 digits 0
  if 0 < n ∧ n < 18446744073709551616 then
    .ok (.placeholder (.numbered n), cs.dropWhile Char.isDigit)
  else .error (.invalidNumber (String.ofList digits))

/-- Where in a text of `size` characters the characters `cs` begin, if they are its last. -/
def position (size : Nat) (cs : List Char) : Nat :=
  size - cs.length

def named (size : Nat) (cs : List Char) : Except LexError (Token × List Char) :=
  let name := cs.takeWhile isWordChar
  if name = [] then .error (.emptyName (position size cs))
  else .ok (.placeholder (.named (String.ofList name)), cs.dropWhile isWordChar)

def token (size : Nat) (c : Char) (cs : List Char) : Except LexError (Token × List Char) :=
  match symbol? c cs with
  | some (s, rest) => .ok (.symbol s, rest)
  | none =>
    if c = '?' then .ok (.placeholder .positional, cs)
    else if c = '$' then numbered cs
    else if c = '@' then named size cs
    else if c = '\x27' then string cs
    else if c = '\x22' then quotedIdentifier cs
    else if isWordStart c then .ok (word (c :: cs.takeWhile isWordChar), cs.dropWhile isWordChar)
    else if c.isDigit then
      .ok (.number (String.ofList (c :: cs.takeWhile Char.isDigit)), cs.dropWhile Char.isDigit)
    else .error (.unexpected c (position size (c :: cs)))

/-- The next token and what follows it in a text of `size` characters, of which `cs` is left. -/
def next? (size : Nat) (cs : List Char) : Except LexError (Option (Token × List Char)) :=
  match skip false cs with
  | [] => .ok none
  | c :: rest => (token size c rest).map some

theorem length_skip_le (inComment : Bool) (cs : List Char) :
    (skip inComment cs).length ≤ cs.length := by
  induction cs generalizing inComment with
  | nil => cases inComment <;> simp [skip]
  | cons c cs ih =>
    cases inComment with
    | true => exact Nat.le_succ_of_le (ih _)
    | false =>
      simp only [skip]
      split
      · exact Nat.le_succ_of_le (ih _)
      · split
        · exact Nat.le_succ_of_le (ih _)
        · exact Nat.le_refl _

theorem length_symbol?_le {c : Char} {cs rest : List Char} {s : Symbol}
    (h : symbol? c cs = some (s, rest)) : rest.length ≤ cs.length := by
  unfold symbol? at h
  split at h <;> simp at h <;> obtain ⟨-, rfl⟩ := h <;> simp

theorem length_stringBody?_le {cs body rest : List Char}
    (h : stringBody? cs = some (body, rest)) : rest.length ≤ cs.length := by
  fun_induction stringBody? cs generalizing body rest with
  | case1 => simp at h
  | case2 cs ih =>
    obtain ⟨⟨b, r⟩, hb, he⟩ := Option.map_eq_some_iff.1 h
    obtain ⟨-, rfl⟩ := Prod.mk.inj he
    have := ih hb
    simp only [List.length_cons]
    omega
  | case3 => simp at h; simp [h.2]
  | case4 c cs _ _ ih =>
    obtain ⟨⟨b, r⟩, hb, he⟩ := Option.map_eq_some_iff.1 h
    obtain ⟨-, rfl⟩ := Prod.mk.inj he
    have := ih hb
    simp only [List.length_cons]
    omega

theorem length_token_le {size : Nat} {c : Char} {cs rest : List Char} {t : Token}
    (h : token size c cs = .ok (t, rest)) : rest.length ≤ cs.length := by
  unfold token at h
  split at h
  next s r hs => cases h; exact length_symbol?_le hs
  next =>
    split at h
    · cases h; exact Nat.le_refl _
    split at h
    · simp only [numbered] at h
      split at h <;> cases h
      exact (List.dropWhile_suffix _).length_le
    split at h
    · simp only [named] at h
      split at h <;> cases h
      exact (List.dropWhile_suffix _).length_le
    split at h
    · unfold string at h
      split at h <;> cases h
      next hb => exact length_stringBody?_le hb
    split at h
    · unfold quotedIdentifier at h
      split at h <;> cases h
      next hd =>
        have := (hd ▸ List.dropWhile_suffix _ : _ :: _ <:+ cs).length_le
        exact Nat.le_of_succ_le this
    split at h
    · cases h; exact (List.dropWhile_suffix _).length_le
    split at h
    · cases h; exact (List.dropWhile_suffix _).length_le
    · cases h

theorem length_next?_lt {size : Nat} {cs rest : List Char} {t : Token}
    (h : next? size cs = .ok (some (t, rest))) : rest.length < cs.length := by
  unfold next? at h
  split at h
  next => cases h
  next c r hs =>
    have hskip := length_skip_le false cs
    simp only [hs, List.length_cons] at hskip
    cases ht : token size c r with
    | error e => simp [ht, Except.map] at h
    | ok p =>
      simp only [ht, Except.map, Except.ok.injEq, Option.some.injEq] at h
      have := length_token_le (h ▸ ht)
      omega

def tokensFrom (size : Nat) (cs : List Char) : Except LexError (List Token) :=
  match _h : next? size cs with
  | .error e => .error e
  | .ok none => .ok [.eof]
  | .ok (some (t, rest)) => (tokensFrom size rest).map (t :: ·)
termination_by cs.length
decreasing_by exact length_next?_lt _h

end Lexer

def Token.scan (text : String) : Except LexError (List Token) :=
  Lexer.tokensFrom text.toList.length text.toList

end PredicateSql
