import PredicateSql.Proofs.Numbering
import PredicateSql.Proofs.Spelling

/-!
# Reading text part by part

A text that can be scanned keeps its tokens where more text follows (`exists_tokensFrom_append`),
unless its last character and the next one fuse: a token looks no further than the character behind
it. Only a comment at the end of the text reaches further, and it ends with its line.
-/

namespace PredicateSql

/-- The failure where `n` more characters stand before the text. -/
def LexError.shift (n : Nat) : LexError → LexError
  | .unexpected c position => .unexpected c (n + position)
  | .emptyName position => .emptyName (n + position)
  | e => e

namespace Lexer

variable {size size' : Nat} {inComment : Bool} {c d b : Char} {cs ds rest more : List Char}
  {t : Token} {ts : List Token}

-- ---------------------------------------------------------------------------
-- Characters that fuse
-- ---------------------------------------------------------------------------

/-- Whether a token that ends in `c` may become another one where `d` follows at once. -/
def fuses (c d : Char) : Bool :=
  isWordChar c && isWordChar d || c == '-' && d == '-' || c == '\x27' && d == '\x27' ||
    (c == '<' || c == '>' || c == '!') && (d == '=' || d == '>')

/-- Whether the texts may be written one behind the other, without a blank between them. -/
def apart (cs more : List Char) : Bool :=
  match cs.getLast?, more.head? with
  | some c, some d => !fuses c d
  | _, _ => true

theorem apart_iff : apart cs more = true ↔
    ∀ c d, cs.getLast? = some c → more.head? = some d → fuses c d = false := by
  unfold apart
  split <;> simp_all

theorem apart_of_suffix (h : apart cs more = true) (hrest : rest <:+ cs) :
    apart rest more = true := by
  obtain ⟨front, rfl⟩ := hrest
  rw [apart_iff] at h ⊢
  intro c d hc hd
  exact h c d (by rw [List.getLast?_append, hc]; rfl) hd

theorem apart_append (h : apart cs ds = true) (hne : ds ≠ []) : apart cs (ds ++ more) = true := by
  cases ds with
  | nil => exact absurd rfl hne
  | cons d ds => exact h

theorem fuses_of_isBlank (hb : Text.isBlank b = true) (c : Char) : fuses c b = false := by
  have hne (d : Char) (hd : Text.isBlank d = false) : (b == d) = false := by
    rw [beq_eq_false_iff_ne]
    rintro rfl
    simp [hb] at hd
  simp [fuses, isWordChar_of_isBlank hb, hne '-' (by decide), hne '\x27' (by decide),
    hne '=' (by decide), hne '>' (by decide)]

theorem apart_blank (hb : Text.isBlank b = true) : apart cs (b :: more) = true := by
  rw [apart_iff]
  rintro c d - hd
  obtain rfl : b = d := by simpa using hd
  exact fuses_of_isBlank hb c

theorem stops_of_apart (h : apart cs more = true) (hne : cs ≠ [])
    (hcs : ∀ c ∈ cs, isWordChar c = true) : stops isWordChar more = true := by
  cases more with
  | nil => rfl
  | cons d more =>
    have hfuses := apart_iff.1 h _ d (List.getLast?_eq_some_getLast hne) rfl
    have hword := hcs _ (List.getLast_mem hne)
    cases hd : isWordChar d with
    | false => simp [stops, hd]
    | true => simp [fuses, hword, hd] at hfuses

-- ---------------------------------------------------------------------------
-- Blanks and comments
-- ---------------------------------------------------------------------------

theorem head?_append_of_apart (h : apart (d :: cs) more = true) :
    (d == '-' && (cs ++ more).head? == some '-') = (d == '-' && cs.head? == some '-') := by
  cases cs with
  | cons => rfl
  | nil =>
    rw [Bool.eq_iff_iff]
    simp only [List.nil_append, Bool.and_eq_true, beq_iff_eq, List.head?_nil,
      reduceCtorEq, and_false, iff_false]
    rintro ⟨rfl, hmore⟩
    exact absurd (apart_iff.1 h '-' '-' rfl hmore) (by decide)

theorem skip_append (hmore : apart cs more = true) (h : skip inComment cs = c :: rest) :
    skip inComment (cs ++ more) = c :: (rest ++ more) := by
  induction cs generalizing inComment with
  | nil => cases inComment <;> cases h
  | cons d cs ih =>
    have hcs : apart cs more = true := apart_of_suffix hmore (List.suffix_cons d cs)
    cases inComment with
    | true => exact ih hcs h
    | false =>
      rw [List.cons_append]
      simp only [skip, head?_append_of_apart hmore] at h ⊢
      split at h
      next hblank => rw [if_pos hblank, ih hcs h]
      next hblank =>
        rw [if_neg hblank]
        split at h
        next hcomment => rw [if_pos hcomment, ih hcs h]
        next hcomment =>
          cases h
          rw [if_neg hcomment]

/-- What is skipped to its end may end in a comment; only that matters for what follows. -/
theorem exists_skip_append (h : skip inComment cs = []) :
    ∃ inComment', ∀ more, skip inComment (cs ++ more) = skip inComment' more := by
  induction cs generalizing inComment with
  | nil => exact ⟨inComment, fun _ => rfl⟩
  | cons d cs ih =>
    cases inComment with
    | true => exact ih h
    | false =>
      simp only [skip] at h
      split at h
      next hblank =>
        obtain ⟨inComment', hskip⟩ := ih h
        refine ⟨inComment', fun more => ?_⟩
        rw [List.cons_append, skip, if_pos hblank, hskip more]
      next hblank =>
        split at h
        next hcomment =>
          obtain ⟨inComment', hskip⟩ := ih h
          refine ⟨inComment', fun more => ?_⟩
          cases cs with
          | nil => simp at hcomment
          | cons c cs =>
            have hcomment' : (d == '-' && (c :: cs ++ more).head? == some '-') = true := hcomment
            rw [List.cons_append, skip, if_neg hblank, if_pos hcomment', hskip more]
        next => cases h

@[simp] theorem skip_skip (inComment : Bool) (cs : List Char) :
    skip false (skip inComment cs) = skip inComment cs := by
  induction cs generalizing inComment with
  | nil => cases inComment <;> rfl
  | cons d cs ih =>
    cases inComment with
    | true => exact ih _
    | false =>
      simp only [skip]
      split
      next => exact ih _
      next hblank =>
        split
        next => exact ih _
        next hcomment => simp only [skip, if_neg hblank, if_neg hcomment]

theorem skip_newline (inComment : Bool) (cs : List Char) :
    skip inComment ('\n' :: cs) = skip false cs := by
  cases inComment <;> rfl

-- ---------------------------------------------------------------------------
-- What is left of a text
-- ---------------------------------------------------------------------------

theorem skip_suffix (inComment : Bool) (cs : List Char) : skip inComment cs <:+ cs := by
  induction cs generalizing inComment with
  | nil => cases inComment <;> exact List.suffix_refl []
  | cons d cs ih =>
    have hstep (inComment : Bool) : skip inComment cs <:+ d :: cs :=
      (ih inComment).trans (List.suffix_cons d cs)
    cases inComment with
    | true => exact hstep _
    | false =>
      simp only [skip]
      split
      · exact hstep _
      split
      · exact hstep _
      · exact List.suffix_refl _

theorem symbol?_suffix {s : Symbol} (h : symbol? c cs = some (s, rest)) : rest <:+ cs := by
  unfold symbol? at h
  split at h <;> simp at h <;> obtain ⟨-, rfl⟩ := h <;> simp

theorem stringBody?_suffix {body : List Char} (h : stringBody? cs = some (body, rest)) :
    rest <:+ cs := by
  fun_induction stringBody? cs generalizing body rest with
  | case1 => cases h
  | case2 cs ih =>
    obtain ⟨⟨body', rest'⟩, hbody, heq⟩ := Option.map_eq_some_iff.1 h
    cases heq
    exact (ih hbody).trans ((List.suffix_cons _ cs).trans (List.suffix_cons _ _))
  | case3 cs =>
    cases h
    exact List.suffix_cons _ cs
  | case4 d cs _ _ ih =>
    obtain ⟨⟨body', rest'⟩, hbody, heq⟩ := Option.map_eq_some_iff.1 h
    cases heq
    exact (ih hbody).trans (List.suffix_cons d cs)

theorem token_suffix (h : token size c cs = .ok (t, rest)) : rest <:+ cs := by
  unfold token at h
  split at h
  next hs =>
    cases h
    exact symbol?_suffix hs
  next =>
  split at h
  · cases h
    exact List.suffix_refl cs
  split at h
  · simp only [numbered] at h
    split at h <;> cases h
    exact List.dropWhile_suffix _
  split at h
  · simp only [named] at h
    split at h <;> cases h
    exact List.dropWhile_suffix _
  split at h
  · unfold string at h
    split at h <;> cases h
    next hbody => exact stringBody?_suffix hbody
  split at h
  · unfold quotedIdentifier at h
    split at h <;> cases h
    next hdrop => exact (List.suffix_cons _ _).trans (hdrop ▸ List.dropWhile_suffix _)
  split at h
  · cases h
    exact List.dropWhile_suffix _
  split at h
  · cases h
    exact List.dropWhile_suffix _
  · cases h

theorem next?_suffix (h : next? size cs = .ok (some (t, rest))) : rest <:+ cs := by
  unfold next? at h
  split at h
  next => cases h
  next c rest' hskip =>
    obtain ⟨⟨t', rest''⟩, htoken, heq⟩ := map_eq_ok.1 h
    cases heq
    exact (token_suffix htoken).trans ((List.suffix_cons c _).trans (hskip ▸ skip_suffix false cs))

-- ---------------------------------------------------------------------------
-- Tokens
-- ---------------------------------------------------------------------------

theorem takeWhile_append {p : Char → Bool} (cs more : List Char)
    (h : cs.dropWhile p ≠ [] ∨ stops p more = true) :
    (cs ++ more).takeWhile p = cs.takeWhile p ∧
      (cs ++ more).dropWhile p = cs.dropWhile p ++ more := by
  induction cs with
  | nil =>
    have hmore : stops p more = true := h.resolve_left (by simp)
    simpa using takeWhile_append_of_stops (by simp : ∀ c ∈ ([] : List Char), p c = true) hmore
  | cons d cs ih =>
    cases hd : p d with
    | false => simp [hd]
    | true =>
      obtain ⟨htake, hdrop⟩ := ih (by simpa [hd] using h)
      simp [hd, htake, hdrop]

theorem takeWhile_append_of_apart {p : Char → Bool} (hp : ∀ c, p c = true → isWordChar c = true)
    (h : apart cs more = true) (hne : cs ≠ []) :
    (cs ++ more).takeWhile p = cs.takeWhile p ∧
      (cs ++ more).dropWhile p = cs.dropWhile p ++ more := by
  refine takeWhile_append cs more ?_
  by_cases hdrop : cs.dropWhile p = []
  · right
    have hcs : ∀ c ∈ cs, p c = true := List.dropWhile_eq_nil_iff.1 hdrop
    have hstops := stops_of_apart h hne fun c hc => hp c (hcs c hc)
    cases more with
    | nil => rfl
    | cons d more =>
      cases hd : p d with
      | false => simp [stops, hd]
      | true => simp [stops, hp d hd] at hstops
  · exact .inl hdrop

theorem symbol?_append (h : apart (c :: cs) more = true) :
    symbol? c (cs ++ more) = (symbol? c cs).map fun (s, rest) => (s, rest ++ more) := by
  cases cs with
  | nil =>
    cases more with
    | nil => simp
    | cons d more =>
      have hfuses : fuses c d = false := apart_iff.1 h c d rfl rfl
      unfold symbol?
      split <;> simp_all [fuses]
  | cons d cs =>
    unfold symbol?
    split <;> simp_all

theorem stringBody?_append (hmore : apart cs more = true) {body : List Char}
    (h : stringBody? cs = some (body, rest)) :
    stringBody? (cs ++ more) = some (body, rest ++ more) := by
  fun_induction stringBody? cs generalizing body rest with
  | case1 => cases h
  | case2 cs ih =>
    obtain ⟨⟨body', rest'⟩, hbody, heq⟩ := Option.map_eq_some_iff.1 h
    cases heq
    have hcs : apart cs more = true :=
      apart_of_suffix hmore ((List.suffix_cons _ cs).trans (List.suffix_cons _ _))
    simp [stringBody?, ih hcs hbody]
  | case3 cs hnext =>
    cases h
    rw [List.cons_append, stringBody?]
    intro ds hds
    cases cs with
    | nil =>
      rw [List.nil_append] at hds
      exact absurd (apart_iff.1 hmore '\x27' '\x27' rfl (by rw [hds]; rfl)) (by decide)
    | cons d cs => exact hnext cs (by rw [(List.cons.inj hds).1])
  | case4 d cs hdouble hquote ih =>
    obtain ⟨⟨body', rest'⟩, hbody, heq⟩ := Option.map_eq_some_iff.1 h
    cases heq
    rw [List.cons_append, stringBody?, ih (apart_of_suffix hmore (List.suffix_cons d cs)) hbody]
    · rfl
    · exact fun _ hd _ => hquote hd
    · exact hquote

theorem string_append (hmore : apart cs more = true) (h : string cs = .ok (t, rest)) :
    string (cs ++ more) = .ok (t, rest ++ more) := by
  unfold string at h
  split at h
  next body rest hbody =>
    cases h
    rw [string, stringBody?_append hmore hbody]
  next => cases h

theorem quotedIdentifier_append (h : quotedIdentifier cs = .ok (t, rest)) :
    quotedIdentifier (cs ++ more) = .ok (t, rest ++ more) := by
  unfold quotedIdentifier at h
  split at h
  next q rest hdrop =>
    cases h
    have hne : cs.dropWhile (· != '\x22') ≠ [] := by simp [hdrop]
    obtain ⟨htake, hdrop'⟩ := takeWhile_append cs more (.inl hne)
    rw [quotedIdentifier, htake, hdrop', hdrop]
    rfl
  next => cases h

theorem numbered_append (hmore : apart cs more = true) (h : numbered cs = .ok (t, rest)) :
    numbered (cs ++ more) = .ok (t, rest ++ more) := by
  have hne : cs ≠ [] := by
    rintro rfl
    cases h
  obtain ⟨htake, hdrop⟩ := takeWhile_append_of_apart (fun _ => isWordChar_of_isDigit) hmore hne
  simp only [numbered, htake, hdrop] at h ⊢
  split at h
  next hn =>
    cases h
    rw [if_pos hn]
  next => cases h

theorem named_append (hmore : apart cs more = true) (h : named size cs = .ok (t, rest)) :
    named size' (cs ++ more) = .ok (t, rest ++ more) := by
  have hne : cs ≠ [] := by
    rintro rfl
    cases h
  obtain ⟨htake, hdrop⟩ := takeWhile_append_of_apart (fun _ => id) hmore hne
  simp only [named, htake, hdrop] at h ⊢
  split at h
  next => cases h
  next hne =>
    cases h
    rw [if_neg hne]

/-- No token reaches a text that is apart from it. -/
theorem token_append (hmore : apart (c :: cs) more = true) (h : token size c cs = .ok (t, rest)) :
    token size' c (cs ++ more) = .ok (t, rest ++ more) := by
  have hcs : apart cs more = true := apart_of_suffix hmore (List.suffix_cons c cs)
  unfold token at h ⊢
  rw [symbol?_append hmore]
  cases hs : symbol? c cs with
  | some p =>
    rw [hs] at h
    cases h
    rfl
  | none =>
    simp only [hs, Option.map_none] at h ⊢
    split at h
    next hc =>
      cases h
      rw [if_pos hc]
    next hc =>
    rw [if_neg hc]
    split at h
    next hc => rw [if_pos hc, numbered_append hcs h]
    next hc =>
    rw [if_neg hc]
    split at h
    next hc => rw [if_pos hc, named_append hcs h]
    next hc =>
    rw [if_neg hc]
    split at h
    next hc => rw [if_pos hc, string_append hcs h]
    next hc =>
    rw [if_neg hc]
    split at h
    next hc => rw [if_pos hc, quotedIdentifier_append h]
    next hc =>
    rw [if_neg hc]
    split at h
    next hc =>
      cases h
      obtain ⟨htake, hdrop⟩ := takeWhile_append_of_apart (fun _ => id) hmore (List.cons_ne_nil c cs)
      have hword := isWordChar_of_isWordStart hc
      simp only [List.cons_append, List.takeWhile_cons_of_pos hword,
        List.dropWhile_cons_of_pos hword, List.cons.injEq, true_and] at htake hdrop
      rw [if_pos hc, htake, hdrop]
    next hc =>
    rw [if_neg hc]
    split at h
    next hc =>
      cases h
      obtain ⟨htake, hdrop⟩ := takeWhile_append_of_apart (fun _ => isWordChar_of_isDigit) hmore
        (List.cons_ne_nil c cs)
      simp only [List.cons_append, List.takeWhile_cons_of_pos hc, List.dropWhile_cons_of_pos hc,
        List.cons.injEq, true_and] at htake hdrop
      rw [if_pos hc, htake, hdrop]
    next => cases h

theorem next?_append (hmore : apart cs more = true) (h : next? size cs = .ok (some (t, rest))) :
    next? size' (cs ++ more) = .ok (some (t, rest ++ more)) := by
  unfold next? at h
  split at h
  next => cases h
  next c rest' hskip =>
    obtain ⟨⟨t', rest''⟩, htoken, heq⟩ := map_eq_ok.1 h
    cases heq
    have hrest : apart (c :: rest') more = true :=
      apart_of_suffix hmore (hskip ▸ skip_suffix false cs)
    rw [next?, skip_append hmore hskip]
    simp only [token_append hrest htoken, Except.map]

theorem skip_of_next? (h : next? size cs = .ok none) : skip false cs = [] := by
  unfold next? at h
  split at h
  next hskip => exact hskip
  next =>
    obtain ⟨_, _, heq⟩ := map_eq_ok.1 h
    cases heq

theorem tokensFrom_skip (h : skip false cs = skip inComment ds) :
    tokensFrom size cs = tokensFrom size (skip inComment ds) := by
  refine tokensFrom_congr ?_
  rw [next?, next?, skip_skip, h]

/-- A text that is scanned keeps its tokens where more text follows, and then reading goes on either
there or within a comment. -/
theorem exists_tokensFrom_append (h : tokensFrom size cs = .ok (ts ++ [.eof])) :
    ∃ inComment, ∀ size' more, apart cs more = true →
      tokensFrom size' (cs ++ more) =
        (tokensFrom size' (skip inComment more)).map (ts ++ ·) := by
  fun_induction tokensFrom size cs generalizing ts with
  | case1 => cases h
  | case2 cs hnext =>
    obtain ⟨inComment, hskip⟩ := exists_skip_append (skip_of_next? hnext)
    obtain rfl : [] = ts := by simpa using h
    refine ⟨inComment, fun size' more _ => ?_⟩
    rw [tokensFrom_skip (hskip more)]
    cases tokensFrom size' (skip inComment more) <;> rfl
  | case3 cs t rest hnext ih =>
    obtain ⟨us, hus, heq⟩ := map_eq_ok.1 h
    obtain ⟨us, rfl, -⟩ := tokensFrom_eq_ok hus
    obtain rfl : t :: us = ts := List.append_cancel_right heq
    obtain ⟨inComment, hrest⟩ := ih hus
    refine ⟨inComment, fun size' more hmore => ?_⟩
    rw [tokensFrom_of_next (next?_append hmore hnext),
      hrest size' more (apart_of_suffix hmore (next?_suffix hnext))]
    cases tokensFrom size' (skip inComment more) <;> rfl

-- ---------------------------------------------------------------------------
-- Positions
-- ---------------------------------------------------------------------------

theorem position_add (n : Nat) (h : cs.length ≤ size) :
    position (n + size) cs = n + position size cs := by
  unfold position
  omega

theorem token_shift (n : Nat) (h : (c :: cs).length ≤ size) :
    token (n + size) c cs = (token size c cs).mapError (LexError.shift n) := by
  have hcs : cs.length ≤ size := Nat.le_of_succ_le h
  have hnamed : named (n + size) cs = (named size cs).mapError (LexError.shift n) := by
    simp only [named, position_add n hcs]
    split <;> rfl
  have hnumbered : numbered cs = (numbered cs).mapError (LexError.shift n) := by
    simp only [numbered]
    split <;> rfl
  have hstring : string cs = (string cs).mapError (LexError.shift n) := by
    unfold string
    split <;> rfl
  have hquoted : quotedIdentifier cs = (quotedIdentifier cs).mapError (LexError.shift n) := by
    unfold quotedIdentifier
    split <;> rfl
  unfold token
  cases symbol? c cs with
  | some p => rfl
  | none =>
    simp only [hnamed, position_add n h, apply_ite (Except.mapError (LexError.shift n)),
      ← hnumbered, ← hstring, ← hquoted]
    rfl

theorem next?_shift (n : Nat) (h : cs.length ≤ size) :
    next? (n + size) cs = (next? size cs).mapError (LexError.shift n) := by
  unfold next?
  split
  next => rfl
  next c rest hskip =>
    have hle : (c :: rest).length ≤ size := hskip ▸ Nat.le_trans (length_skip_le false cs) h
    rw [token_shift n hle]
    cases token size c rest <;> rfl

theorem tokensFrom_of_error {e : LexError} (h : next? size cs = .error e) :
    tokensFrom size cs = .error e := by
  rw [tokensFrom]
  split <;> simp_all

theorem tokensFrom_shift (n : Nat) (h : cs.length ≤ size) :
    tokensFrom (n + size) cs = (tokensFrom size cs).mapError (LexError.shift n) := by
  fun_induction tokensFrom size cs with
  | case1 cs e hnext =>
    rw [tokensFrom_of_error (by rw [next?_shift n h, hnext]; rfl)]
    rfl
  | case2 cs hnext =>
    rw [tokensFrom_of_end (by rw [next?_shift n h, hnext]; rfl)]
    rfl
  | case3 cs t rest hnext ih =>
    have hle : rest.length ≤ size := Nat.le_trans (Nat.le_of_lt (length_next?_lt hnext)) h
    rw [tokensFrom_of_next (by rw [next?_shift n h, hnext]; rfl), ih hle]
    cases tokensFrom size rest <;> rfl

/-- Where a placeholder written behind the text is read as one, the text does not end in a comment,
and its tokens stay whatever comes behind it. -/
theorem Reads.ofScan {text : String} (h : Token.scan text = .ok (ts ++ [.eof]))
    (hopen : Token.scan (text ++ "?") = .ok (ts ++ [Token.placeholder .positional, .eof]))
    (hmore : apart text.toList more = true) : Reads text.toList ts more := by
  obtain ⟨inComment, happend⟩ := exists_tokensFrom_append h
  have hmark : apart text.toList ['?'] = true := by
    rw [apart_iff]
    rintro c d - hd
    obtain rfl : '?' = d := by simpa using hd
    simp [fuses, (by decide : isWordChar '?' = false)]
  cases inComment with
  | false =>
    intro size
    rw [happend size more hmore, ← tokensFrom_skip rfl]
  | true =>
    have htext : (text ++ "?").toList = text.toList ++ ['?'] := by simp
    have hend : skip true ['?'] = [] := rfl
    rw [Token.scan, htext, happend _ _ hmark, hend] at hopen
    simp [Except.map] at hopen

end Lexer

namespace Token

open PredicateSql.Lexer

/-- A text that is scanned keeps its tokens where a line break and another text follow it, whatever
it ends with. Both are scanned if and only if the second one is; its tokens come behind those of the
first, and if it fails, then the whole fails in the same way and at the same place. -/
theorem scan_lines {s₁ s₂ : String} {ts : List Token} (h : scan s₁ = .ok (ts ++ [.eof])) :
    ((∃ us, scan (s₁ ++ "\n" ++ s₂) = .ok us) ↔ ∃ us, scan s₂ = .ok us) ∧
    scan (s₁ ++ "\n" ++ s₂) =
      ((scan s₂).map (ts ++ ·)).mapError (LexError.shift (s₁.length + 1)) := by
  obtain ⟨inComment, happend⟩ := exists_tokensFrom_append h
  have htext : (s₁ ++ "\n" ++ s₂).toList = s₁.toList ++ '\n' :: s₂.toList := by simp
  have hlength : (s₁.toList ++ '\n' :: s₂.toList).length = s₁.length + 1 + s₂.toList.length := by
    simp only [List.length_append, List.length_cons, String.length_toList]
    omega
  have hscan : scan (s₁ ++ "\n" ++ s₂) =
      ((scan s₂).map (ts ++ ·)).mapError (LexError.shift (s₁.length + 1)) := by
    rw [scan, htext, happend _ _ (apart_blank (by decide)), skip_newline,
      ← tokensFrom_skip rfl, hlength, tokensFrom_shift _ (Nat.le_refl _), scan]
    cases tokensFrom s₂.toList.length s₂.toList <;> rfl
  refine ⟨?_, hscan⟩
  rw [hscan]
  cases scan s₂ <;> simp [Except.map, Except.mapError]

theorem scan_lines_apart :
    scan ("a <-- it's less" ++ "\n" ++ "= 'b'") =
      .ok [.identifier "a", .symbol .less, .symbol .equal, .string "b", .eof] ∧
    scan ("'it'" ++ "\n" ++ "'s' #") = .error (.unexpected '#' 9) := by
  have hcomment : scan "a <-- it's less" = .ok ([.identifier "a", .symbol .less] ++ [.eof]) := by
    cbv
  have hquote : scan "'it'" = .ok ([.string "it"] ++ [.eof]) := by cbv
  exact ⟨(scan_lines hcomment).2.trans (by cbv), (scan_lines hquote).2.trans (by cbv)⟩

end Token

end PredicateSql
