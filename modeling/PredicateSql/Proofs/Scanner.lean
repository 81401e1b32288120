import PredicateSql.Proofs.Attempt
import PredicateSql.Proofs.Lines

/-!
# Scanning by position

Tokens read by a position that moves through a fixed text. The position goes up by one for each
character taken, and nothing in these definitions holds it back at the end of the text.
`ends_next`: it never passes the end all the same, and a token takes it forward. `agrees_next` and
`agrees_tokens`: a limit linear in the characters ahead is never reached, and the outcome is that of
the lexer.
-/

namespace PredicateSql.Scanner

open PredicateSql.Attempt
open PredicateSql.Lexer (isWordStart isWordChar word)

abbrev Reader (α : Type) : Type :=
  (p : Nat) → Attempt LexError (α × Nat)

section Definitions

variable (cs : List Char)

def readWhile (accept : Char → Bool) : (limit : Nat) → Reader (List Char)
  | 0, _ => .mk none
  | limit + 1, p =>
    match cs[p]? with
    | none => return ([], p)
    | some c =>
      if accept c then do
        let (text, q) ← readWhile accept limit (p + 1)
        return (c :: text, q)
      else return ([], p)

/-- Takes the line end too, if there is one. -/
def skipLine : (limit : Nat) → Reader Unit
  | 0, _ => .mk none
  | limit + 1, p =>
    match cs[p]? with
    | none => return ((), p)
    | some c => if c = '\n' then return ((), p + 1) else skipLine limit (p + 1)

def stringBody : (limit : Nat) → Reader (List Char)
  | 0, _ => .mk none
  | limit + 1, p =>
    match cs[p]? with
    | none => throw (.unterminatedString, p)
    | some c =>
      if c = '\x27' then
        if cs[p + 1]? = some '\x27' then do
          let (body, q) ← stringBody limit (p + 2)
          return ('\x27' :: body, q)
        else return ([], p + 1)
      else do
        let (body, q) ← stringBody limit (p + 1)
        return (c :: body, q)

def string (limit : Nat) : Reader Token := fun p => do
  let (body, q) ← stringBody cs limit p
  return (.string (String.ofList body), q)

def quotedIdentifier (limit : Nat) : Reader Token := fun p => do
  let (name, q) ← readWhile cs (· != '\x22') limit p
  if cs[q]? = some '\x22' then return (.identifier (String.ofList name), q + 1)
  else throw (.unterminatedIdentifier, q)

def numbered (limit : Nat) : Reader Token := fun p => do
  let (digits, q) ← readWhile cs Char.isDigit limit p
  let n := Nat.ofDigitChars 10 digits 0
  if 0 < n ∧ n < 18446744073709551616 then return (.placeholder (.numbered n), q)
  else throw (.invalidNumber (String.ofList digits), q)

def named (limit : Nat) : Reader Token := fun p => do
  let (name, q) ← readWhile cs isWordChar limit p
  if name = [] then throw (.emptyName q, q)
  else return (.placeholder (.named (String.ofList name)), q)

def symbol? (c : Char) (p : Nat) : Option (Symbol × Nat) :=
  match c with
  | '+' => some (.plus, p + 1)
  | '-' => some (.minus, p + 1)
  | '*' => some (.star, p + 1)
  | '/' => some (.slash, p + 1)
  | '%' => some (.percent, p + 1)
  | '=' => some (.equal, p + 1)
  | '<' =>
    if cs[p + 1]? = some '=' then some (.lessEqual, p + 2)
    else if cs[p + 1]? = some '>' then some (.notEqual, p + 2)
    else some (.less, p + 1)
  | '>' => if cs[p + 1]? = some '=' then some (.greaterEqual, p + 2) else some (.greater, p + 1)
  | '!' => if cs[p + 1]? = some '=' then some (.notEqual, p + 2) else none
  | '(' => some (.leftParen, p + 1)
  | ')' => some (.rightParen, p + 1)
  | ',' => some (.comma, p + 1)
  | ';' => some (.semicolon, p + 1)
  | _ => none

def token (limit : Nat) (c : Char) : Reader Token := fun p =>
  match symbol? cs c p with
  | some (s, q) => return (.symbol s, q)
  | none =>
    if c = '?' then return (.placeholder .positional, p + 1)
    else if c = '$' then numbered cs limit (p + 1)
    else if c = '@' then named cs limit (p + 1)
    else if c = '\x27' then string cs limit (p + 1)
    else if c = '\x22' then quotedIdentifier cs limit (p + 1)
    else if isWordStart c then do
      let (name, q) ← readWhile cs isWordChar limit p
      return (word name, q)
    else if c.isDigit then do
      let (digits, q) ← readWhile cs Char.isDigit limit p
      return (.number (String.ofList digits), q)
    else throw (.unexpected c p, p)

/-- The next token. Behind a comment it is looked for anew. -/
def next : (limit : Nat) → Reader Token
  | 0, _ => .mk none
  | limit + 1, p => do
    let (_, q) ← readWhile cs Text.isBlank limit p
    match cs[q]? with
    | none => return (.eof, q)
    | some c =>
      if c = '-' ∧ cs[q + 1]? = some '-' then do
        let (_, r) ← skipLine cs limit q
        next limit r
      else token cs limit c q

def tokens : (limit : Nat) → Reader (List Token)
  | 0, _ => .mk none
  | limit + 1, p => do
    let (t, q) ← next cs limit p
    if t = .eof then return ([t], q)
    else do
      let (ts, r) ← tokens limit q
      return (t :: ts, r)

end Definitions

variable {cs ds rest : List Char} {c : Char} {p q limit high : Nat}

-- ---------------------------------------------------------------------------
-- Moving forward
-- ---------------------------------------------------------------------------

section Ends

variable (hhigh : cs.length ≤ high)

theorem lt_of_current (h : cs[p]? = some c) : p < cs.length :=
  (List.getElem?_eq_some_iff.1 h).1

include hhigh

theorem ends_readWhile {accept : Char → Bool} (hp : p ≤ high) :
    Ends high (fun _ q => p ≤ q) (readWhile cs accept limit p) := by
  induction limit generalizing p with
  | zero => exact ends_limit
  | succ limit ih =>
    unfold readWhile
    split
    next => exact ends_pure (Nat.le_refl p) hp
    next c hc =>
      -- there is a character at the position, hence the next one is not past the end
      have hlt := lt_of_current hc
      split
      next =>
        refine (ih (p := p + 1) (by omega)).bind fun text q hq hend => ends_pure ?_ hend
        omega
      next => exact ends_pure (Nat.le_refl p) hp

theorem ends_readWhile_of_accept {accept : Char → Bool} (hc : cs[p]? = some c)
    (haccept : accept c = true) : Ends high (fun _ q => p < q) (readWhile cs accept limit p) := by
  cases limit with
  | zero => exact ends_limit
  | succ limit =>
    have hlt := lt_of_current hc
    simp only [readWhile, hc, haccept, if_true]
    exact (ends_readWhile hhigh (by omega)).bind fun text q hq hend => ends_pure hq hend

theorem ends_skipLine (hp : p ≤ high) :
    Ends high (fun _ q => p ≤ q) (skipLine cs limit p) := by
  induction limit generalizing p with
  | zero => exact ends_limit
  | succ limit ih =>
    unfold skipLine
    split
    next => exact ends_pure (Nat.le_refl p) hp
    next c hc =>
      have hlt := lt_of_current hc
      split
      next => exact ends_pure (Nat.le_succ p) (by omega)
      next => exact (ih (by omega)).mono fun _ q hq => Nat.le_of_succ_le hq

theorem ends_stringBody (hp : p ≤ high) :
    Ends high (fun _ q => p ≤ q) (stringBody cs limit p) := by
  induction limit generalizing p with
  | zero => exact ends_limit
  | succ limit ih =>
    unfold stringBody
    split
    next => exact ends_throw hp
    next c hc =>
      have hlt := lt_of_current hc
      split
      next =>
        split
        next hpeek =>
          have hpeek := lt_of_current hpeek
          refine (ih (p := p + 2) (by omega)).bind fun body q hq hend => ends_pure ?_ hend
          omega
        next => exact ends_pure (Nat.le_succ p) (by omega)
      next =>
        refine (ih (p := p + 1) (by omega)).bind fun body q hq hend => ends_pure ?_ hend
        omega

theorem ends_string (hp : p ≤ high) :
    Ends high (fun t q => t ≠ .eof ∧ p ≤ q) (string cs limit p) :=
  (ends_stringBody hhigh hp).bind fun _ _ hq hend => ends_pure ⟨by simp, hq⟩ hend

theorem ends_quotedIdentifier (hp : p ≤ high) :
    Ends high (fun t q => t ≠ .eof ∧ p ≤ q) (quotedIdentifier cs limit p) := by
  refine (ends_readWhile hhigh hp).bind fun name q hq hend => ?_
  simp only
  split
  next hquote =>
    have hlt := lt_of_current hquote
    exact ends_pure ⟨by simp, Nat.le_succ_of_le hq⟩ (by omega)
  next => exact ends_throw hend

theorem ends_numbered (hp : p ≤ high) :
    Ends high (fun t q => t ≠ .eof ∧ p ≤ q) (numbered cs limit p) := by
  refine (ends_readWhile hhigh hp).bind fun digits q hq hend => ?_
  simp only
  split
  next => exact ends_pure ⟨by simp, hq⟩ hend
  next => exact ends_throw hend

theorem ends_named (hp : p ≤ high) :
    Ends high (fun t q => t ≠ .eof ∧ p ≤ q) (named cs limit p) := by
  refine (ends_readWhile hhigh hp).bind fun name q hq hend => ?_
  simp only
  split
  next => exact ends_throw hend
  next => exact ends_pure ⟨by simp, hq⟩ hend

omit hhigh in
theorem lt_of_symbol? {s : Symbol} (hc : cs[p]? = some c) (h : symbol? cs c p = some (s, q)) :
    p < q ∧ q ≤ cs.length := by
  have hlt := lt_of_current hc
  have hpeek : ∀ c', cs[p + 1]? = some c' → p + 1 < cs.length := fun _ => lt_of_current
  unfold symbol? at h
  split at h
  all_goals grind

theorem ends_token (hc : cs[p]? = some c) :
    Ends high (fun t q => t ≠ .eof ∧ p < q) (token cs limit c p) := by
  have hlt := lt_of_current hc
  have hp : p + 1 ≤ high := by omega
  unfold token
  split
  next s q hs =>
    obtain ⟨hq, hend⟩ := lt_of_symbol? hc hs
    exact ends_pure ⟨by simp, hq⟩ (by omega)
  next =>
    split
    next => exact ends_pure ⟨by simp, Nat.lt_succ_self p⟩ hp
    split
    next => exact ends_numbered hhigh hp
    split
    next => exact ends_named hhigh hp
    split
    next => exact ends_string hhigh hp
    split
    next => exact ends_quotedIdentifier hhigh hp
    split
    next hstart =>
      refine (ends_readWhile_of_accept hhigh hc (Lexer.isWordChar_of_isWordStart hstart)).bind ?_
      exact fun name q hq hend => ends_pure ⟨(Lexer.scanned_word name).ne_eof, hq⟩ hend
    split
    next hdigit =>
      refine (ends_readWhile_of_accept hhigh hc hdigit).bind ?_
      exact fun digits q hq hend => ends_pure ⟨by simp, hq⟩ hend
    next => exact ends_throw (by omega)

theorem ends_next (limit : Nat) (hp : p ≤ high) :
    Ends high (fun t q => p ≤ q ∧ (t = .eof → cs.length ≤ q) ∧ (t ≠ .eof → p < q))
      (next cs limit p) := by
  induction limit generalizing p with
  | zero => exact ends_limit
  | succ limit ih =>
    refine (ends_readWhile hhigh hp).bind fun _ q hq hend => ?_
    simp only
    split
    next hnone => exact ends_pure ⟨hq, fun _ => List.getElem?_eq_none_iff.1 hnone, by simp⟩ hend
    next c hc =>
      split
      next =>
        -- the comment does not go back, and a token behind it goes on
        refine (ends_skipLine hhigh hend).bind fun _ r hr hend => (ih hend).mono fun t r' hr' => ?_
        exact ⟨by omega, hr'.2.1, fun ht => have := hr'.2.2 ht; by omega⟩
      next =>
        refine (ends_token hhigh hc).mono fun t r hr => ?_
        exact ⟨by omega, fun heof => absurd heof hr.1, fun _ => by omega⟩

theorem ends_tokens (limit : Nat) (hp : p ≤ high) :
    Ends high (fun ts q => cs.length ≤ q ∧
      ∃ us, ts = us ++ [.eof] ∧ .eof ∉ us ∧ p + us.length ≤ q) (tokens cs limit p) := by
  induction limit generalizing p with
  | zero => exact ends_limit
  | succ limit ih =>
    refine (ends_next hhigh limit hp).bind fun t q hq hend => ?_
    simp only
    split
    next heof => exact ends_pure ⟨hq.2.1 heof, [], by simp [heof], by simp, hq.1⟩ hend
    next hne =>
      have hlt := hq.2.2 hne
      refine (ih hend).bind fun ts r hr hend => ?_
      obtain ⟨hlength, us, rfl, hus, hr⟩ := hr
      refine ends_pure ⟨hlength, t :: us, rfl, by simp [hus, Ne.symm hne], ?_⟩ hend
      rw [List.length_cons]
      omega

end Ends

-- ---------------------------------------------------------------------------
-- The lexer's outcome
-- ---------------------------------------------------------------------------

/-- The characters `ds` stand from the position to the end of the text. -/
structure At (cs : List Char) (p : Nat) (ds : List Char) : Prop where
  le : p ≤ cs.length
  drop : cs.drop p = ds

namespace At

theorem start (cs : List Char) : At cs 0 cs :=
  ⟨Nat.zero_le _, rfl⟩

theorem current (h : At cs p ds) : cs[p]? = ds.head? := by
  rw [← h.drop, List.head?_drop]

theorem step (h : At cs p (c :: ds)) : At cs (p + 1) ds := by
  have hlt := lt_of_current h.current
  exact ⟨hlt, by rw [← List.tail_drop, h.drop, List.tail_cons]⟩

theorem position (h : At cs p ds) : Lexer.position cs.length ds = p := by
  have hle := h.le
  rw [Lexer.position, ← h.drop, List.length_drop]
  omega

end At

section Agrees

variable {α β : Type}

/-- The attempt ends, and as the reading does: what the one leaves is what the other has ahead. -/
inductive Agrees (cs : List Char) :
    Attempt LexError (α × Nat) → Except LexError (α × List Char) → Prop
  | ok {a : α} {q : Nat} {rest : List Char} (hq : At cs q rest) :
      Agrees cs (pure (a, q)) (.ok (a, rest))
  | error {e : LexError} {q : Nat} : Agrees cs (throw (e, q)) (.error e)

theorem Agrees.exists_of_ok {x : Attempt LexError (α × Nat)} {a : α}
    (h : Agrees cs x (.ok (a, rest))) : ∃ q, x = pure (a, q) ∧ At cs q rest := by
  cases h with
  | ok hq => exact ⟨_, rfl, hq⟩

theorem Agrees.bind_ok {x : Attempt LexError (α × Nat)} {f : α × Nat → Attempt LexError (β × Nat)}
    {a : α} {y : Except LexError (β × List Char)} (h : Agrees cs x (.ok (a, rest)))
    (hf : ∀ q, At cs q rest → Agrees cs (f (a, q)) y) : Agrees cs (x >>= f) y := by
  cases h with
  | ok hq => exact hf _ hq

theorem Agrees.bind_error {x : Attempt LexError (α × Nat)}
    {f : α × Nat → Attempt LexError (β × Nat)} {e : LexError} (h : Agrees cs x (.error e)) :
    Agrees cs (x >>= f) (.error e) := by
  cases h with
  | error => exact .error

theorem Agrees.map {x : Attempt LexError (α × Nat)} {y : Except LexError (α × List Char)}
    (h : Agrees cs x y) (f : α → β) :
    Agrees cs (x >>= fun r => pure (f r.1, r.2)) (y.map fun r => (f r.1, r.2)) := by
  cases h with
  | ok hq => exact .ok hq
  | error => exact .error

theorem Agrees.map_elim {x : Attempt LexError (α × Nat)} {o : Option (α × List Char)}
    {e : LexError} (h : Agrees cs x (o.elim (.error e) .ok)) (f : α → β) :
    Agrees cs (x >>= fun r => pure (f r.1, r.2))
      ((o.map fun r => (f r.1, r.2)).elim (.error e) .ok) := by
  cases o with
  | none => exact h.map f
  | some r => exact h.map f

end Agrees

theorem agrees_readWhile (accept : Char → Bool) (h : At cs p ds) (hlimit : ds.length < limit) :
    Agrees cs (readWhile cs accept limit p) (.ok (ds.takeWhile accept, ds.dropWhile accept)) := by
  induction limit generalizing p ds with
  | zero => omega
  | succ limit ih =>
    unfold readWhile
    rw [h.current]
    cases ds with
    | nil => exact .ok h
    | cons c ds =>
      simp only [List.head?_cons, List.takeWhile_cons, List.dropWhile_cons]
      split
      next => exact (ih h.step (Nat.lt_of_succ_lt_succ hlimit)).map (c :: ·)
      next => exact .ok h

theorem agrees_skipLine (h : At cs p ds) (hlimit : ds.length < limit) :
    Agrees cs (skipLine cs limit p) (.ok ((), (ds.dropWhile (· != '\n')).tail)) := by
  induction limit generalizing p ds with
  | zero => omega
  | succ limit ih =>
    unfold skipLine
    rw [h.current]
    cases ds with
    | nil => exact .ok h
    | cons c ds =>
      simp only [List.head?_cons, List.dropWhile_cons, bne_iff_ne, ite_not]
      split
      next => exact .ok h.step
      next => exact ih h.step (Nat.lt_of_succ_lt_succ hlimit)

theorem agrees_stringBody (h : At cs p ds) (hlimit : ds.length < limit) :
    Agrees cs (stringBody cs limit p)
      ((Lexer.stringBody? ds).elim (.error .unterminatedString) .ok) := by
  induction limit generalizing p ds with
  | zero => omega
  | succ limit ih =>
    unfold stringBody
    rw [h.current]
    cases ds with
    | nil => exact .error
    | cons c ds =>
      have hpeek := h.step.current
      simp only [List.head?_cons, hpeek, List.length_cons] at hlimit ⊢
      by_cases hc : c = '\x27'
      · subst hc
        rw [if_pos rfl]
        cases ds with
        | nil => exact .ok h.step
        | cons d ds =>
          by_cases hd : d = '\x27'
          · subst hd
            rw [List.length_cons] at hlimit
            rw [Lexer.stringBody?]
            exact (ih h.step.step (by omega)).map_elim ('\x27' :: ·)
          · rw [if_neg (by simpa using hd), Lexer.stringBody?]
            · exact .ok h.step
            · simpa using hd
      · rw [if_neg hc, Lexer.stringBody?]
        · exact (ih h.step (by omega)).map_elim (c :: ·)
        · rintro _ rfl
          exact absurd rfl hc
        · exact hc

theorem head?_ne_of_not_cons (h : ∀ rest, ds = c :: rest → False) : ds.head? ≠ some c := by
  rw [Ne, List.head?_eq_some_iff]
  rintro ⟨rest, hds⟩
  exact h rest hds

theorem agrees_symbol? (h : At cs p (c :: ds)) :
    symbol? cs c p = none ∧ Lexer.symbol? c ds = none ∨
      ∃ s q rest, symbol? cs c p = some (s, q) ∧ Lexer.symbol? c ds = some (s, rest) ∧
        At cs q rest := by
  have hpeek := h.step.current
  unfold Lexer.symbol?
  split
  case h_1 | h_2 | h_3 | h_4 =>
    exact .inr ⟨_, _, _, by simp [symbol?, hpeek], rfl, h.step.step⟩
  case h_11 heq hgt =>
    have heq := head?_ne_of_not_cons heq
    have hgt := head?_ne_of_not_cons hgt
    exact .inr ⟨_, _, _, by simp [symbol?, hpeek, heq, hgt], rfl, h.step⟩
  case h_12 heq =>
    have heq := head?_ne_of_not_cons heq
    exact .inr ⟨_, _, _, by simp [symbol?, hpeek, heq], rfl, h.step⟩
  case h_17 hbang =>
    refine .inl ⟨?_, rfl⟩
    unfold symbol?
    split
    all_goals try contradiction
    next => rw [hpeek, if_neg (head?_ne_of_not_cons fun rest => hbang rest rfl)]
    next => rfl
  all_goals exact .inr ⟨_, _, _, rfl, rfl, h.step⟩

theorem agrees_string (h : At cs p ds) (hlimit : ds.length < limit) :
    Agrees cs (string cs limit p) (Lexer.string ds) := by
  have hbody := (agrees_stringBody h hlimit).map_elim fun body => Token.string (String.ofList body)
  unfold Lexer.string
  cases hrest : Lexer.stringBody? ds with
  | none =>
    rw [hrest] at hbody
    exact hbody
  | some r =>
    rw [hrest] at hbody
    exact hbody

theorem agrees_quotedIdentifier (h : At cs p ds) (hlimit : ds.length < limit) :
    Agrees cs (quotedIdentifier cs limit p) (Lexer.quotedIdentifier ds) := by
  refine (agrees_readWhile _ h hlimit).bind_ok fun q hq => ?_
  have hquote := List.head?_dropWhile_not (· != '\x22') ds
  unfold Lexer.quotedIdentifier
  cases hdrop : ds.dropWhile (· != '\x22') with
  | nil =>
    rw [hdrop] at hq
    simp only [hq.current]
    exact .error
  | cons d rest =>
    rw [hdrop] at hq hquote
    obtain rfl : d = '\x22' := by simpa using hquote
    simp only [hq.current, List.head?_cons, if_true]
    exact .ok hq.step

theorem agrees_numbered (h : At cs p ds) (hlimit : ds.length < limit) :
    Agrees cs (numbered cs limit p) (Lexer.numbered ds) := by
  refine (agrees_readWhile _ h hlimit).bind_ok fun q hq => ?_
  simp only [Lexer.numbered]
  split
  next => exact .ok hq
  next => exact .error

theorem agrees_named (h : At cs p ds) (hlimit : ds.length < limit) :
    Agrees cs (named cs limit p) (Lexer.named cs.length ds) := by
  refine (agrees_readWhile _ h hlimit).bind_ok fun q hq => ?_
  simp only [Lexer.named]
  split
  next hempty =>
    -- an empty name has not moved the position
    have hrest : ds.dropWhile isWordChar = ds := by
      simpa [hempty] using List.takeWhile_append_dropWhile (p := isWordChar) (l := ds)
    rw [hrest] at hq
    rw [hq.position]
    exact .error
  next => exact .ok hq

theorem agrees_token (h : At cs p (c :: ds)) (hlimit : ds.length + 1 < limit) :
    Agrees cs (token cs limit c p) (Lexer.token cs.length c ds) := by
  have hlt : ds.length < limit := Nat.lt_of_succ_lt hlimit
  unfold token Lexer.token
  rcases agrees_symbol? h with ⟨hscanner, hlexer⟩ | ⟨s, q, rest, hscanner, hlexer, hrest⟩
  · simp only [hscanner, hlexer]
    split
    next => exact .ok h.step
    split
    next => exact agrees_numbered h.step hlt
    split
    next => exact agrees_named h.step hlt
    split
    next => exact agrees_string h.step hlt
    split
    next => exact agrees_quotedIdentifier h.step hlt
    split
    next hstart =>
      have hword := agrees_readWhile isWordChar h hlimit
      rw [List.takeWhile_cons_of_pos (Lexer.isWordChar_of_isWordStart hstart),
        List.dropWhile_cons_of_pos (Lexer.isWordChar_of_isWordStart hstart)] at hword
      exact hword.map word
    split
    next hdigit =>
      have hnumber := agrees_readWhile Char.isDigit h hlimit
      rw [List.takeWhile_cons_of_pos hdigit, List.dropWhile_cons_of_pos hdigit] at hnumber
      exact hnumber.map fun digits => Token.number (String.ofList digits)
    next =>
      rw [h.position]
      exact .error
  · simp only [hscanner, hlexer]
    exact .ok hrest

-- ---------------------------------------------------------------------------
-- Whole texts
-- ---------------------------------------------------------------------------

theorem skip_dropWhile (ds : List Char) :
    Lexer.skip false (ds.dropWhile Text.isBlank) = Lexer.skip false ds := by
  induction ds with
  | nil => rfl
  | cons c ds ih =>
    cases hc : Text.isBlank c with
    | true =>
      rw [List.dropWhile_cons_of_pos hc, ih]
      simp [Lexer.skip, hc]
    | false => rw [List.dropWhile_cons_of_neg (by simp [hc])]

theorem skip_line (ds : List Char) :
    Lexer.skip true ds = Lexer.skip false (ds.dropWhile (· != '\n')).tail := by
  induction ds with
  | nil => rfl
  | cons c ds ih =>
    by_cases hc : c = '\n'
    · subst hc
      rfl
    · have hne : (c != '\n') = true := by simpa using hc
      simp only [List.dropWhile_cons, hne, if_true, ← ih, Lexer.skip]

theorem next?_congr {size : Nat} (h : Lexer.skip false ds = Lexer.skip false rest) :
    Lexer.next? size ds = Lexer.next? size rest := by
  unfold Lexer.next?
  rw [h]

theorem next?_cons {size : Nat} (hc : Text.isBlank c = false)
    (hne : ¬ (c = '-' ∧ ds.head? = some '-')) :
    Lexer.next? size (c :: ds) = (Lexer.token size c ds).map some := by
  have hskip : Lexer.skip false (c :: ds) = c :: ds := by
    simp [Lexer.skip, hc, hne]
  unfold Lexer.next?
  rw [hskip]

theorem next?_comment {size : Nat} (ds : List Char) :
    Lexer.next? size ('-' :: '-' :: ds) = Lexer.next? size (ds.dropWhile (· != '\n')).tail :=
  next?_congr (skip_line ds)

theorem agrees_next (h : At cs p ds) (hlimit : ds.length + 1 < limit) :
    Agrees cs (next cs limit p) ((Lexer.next? cs.length ds).map (·.getD (.eof, []))) := by
  induction limit generalizing p ds with
  | zero => omega
  | succ limit ih =>
    have hlength := (List.dropWhile_suffix (l := ds) Text.isBlank).length_le
    have hblank := List.head?_dropWhile_not Text.isBlank ds
    refine (agrees_readWhile _ h (by omega)).bind_ok fun q hq => ?_
    rw [next?_congr (skip_dropWhile ds).symm]
    generalize ds.dropWhile Text.isBlank = rest at hq hblank hlength ⊢
    simp only [hq.current]
    cases rest with
    | nil => exact .ok hq
    | cons c rest =>
      simp only [List.head?_cons, hq.step.current, List.length_cons] at hlength ⊢
      split
      next hcomment =>
        obtain ⟨rfl, hhead⟩ := hcomment
        obtain ⟨line, rfl⟩ := List.head?_eq_some_iff.1 hhead
        have hline := ((List.tail_suffix _).trans
          (List.dropWhile_suffix (l := line) (· != '\n'))).length_le
        rw [List.length_cons] at hlength
        refine (agrees_skipLine hq (by simp only [List.length_cons]; omega)).bind_ok fun r hr => ?_
        rw [next?_comment]
        exact ih hr (by omega)
      next hne =>
        rw [next?_cons (by simpa using hblank) hne]
        have htoken : Agrees cs (token cs limit c q) _ := agrees_token hq (by omega)
        generalize Lexer.token cs.length c rest = y at htoken ⊢
        cases y with
        | error e => exact htoken
        | ok r => exact htoken

theorem agrees_tokens (h : At cs p ds) (hlimit : ds.length + 2 < limit) :
    Agrees cs (tokens cs limit p) ((Lexer.tokensFrom cs.length ds).map (·, [])) := by
  induction limit generalizing p ds with
  | zero => omega
  | succ limit ih =>
    have hnext : Agrees cs (next cs limit p) _ := agrees_next h (by omega)
    cases hds : Lexer.next? cs.length ds with
    | error e =>
      rw [Lexer.tokensFrom_of_error hds]
      rw [hds] at hnext
      exact hnext.bind_error
    | ok r =>
      rw [hds] at hnext
      refine hnext.bind_ok fun q hq => ?_
      cases r with
      | none =>
        rw [Lexer.tokensFrom_of_end hds]
        exact .ok hq
      | some r =>
        obtain ⟨t, rest⟩ := r
        have hq : At cs q rest := hq
        have hlength := Lexer.length_next?_lt hds
        have hne : t ≠ .eof := (Lexer.scanned_of_next? hds).ne_eof
        rw [Lexer.tokensFrom_of_next hds]
        simp only [hne, if_false]
        have htokens := (ih hq (by omega)).map (t :: ·)
        generalize Lexer.tokensFrom cs.length rest = y at htokens ⊢
        cases y <;> exact htokens

end PredicateSql.Scanner
