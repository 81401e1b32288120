import PredicateSql.Proofs.Scanning

/-!
# Tokens are read as they are written

`Token.Spelled`: the ways to write a token. Whatever way is chosen for each of a list of tokens, the
text with blanks between them is scanned into the same list: a string may hold anything, and no
token runs into the next.
-/

namespace PredicateSql

open PredicateSql.Lexer

/-- What stands between the quotes of a string: every quote of its content is written twice. -/
def Lexer.doubled : List Char → List Char
  | [] => []
  | c :: cs => if c = '\x27' then '\x27' :: '\x27' :: doubled cs else c :: doubled cs

namespace Token

/-- The tokens that a text can hold. A quoted identifier has no way to write a double quote. -/
def Writable : Token → Prop
  | .identifier name => '\x22' ∉ name.toList
  | .number digits => digits ≠ "" ∧ ∀ c ∈ digits.toList, c.isDigit = true
  | .placeholder (.numbered n) => 1 ≤ n ∧ n < 18446744073709551616
  | .placeholder (.named name) => name ≠ "" ∧ ∀ c ∈ name.toList, isWordChar c = true
  | .string _ | .placeholder .positional | .keyword _ | .symbol _ => True
  | .eof => False

inductive Spelled : Token → String → Prop
  | quoted (name : String) : Spelled (.identifier name) ("\x22" ++ name ++ "\x22")
  | plain {name : String} : isPlain name = true → Spelled (.identifier name) name
  | number (digits : String) : Spelled (.number digits) digits
  | string (s : String) : Spelled (.string s) ("\x27" ++ String.ofList (doubled s.toList) ++ "\x27")
  | positional : Spelled (.placeholder .positional) "?"
  | numbered (n : Nat) : Spelled (.placeholder (.numbered n)) ("$" ++ toString n)
  | named (name : String) : Spelled (.placeholder (.named name)) ("@" ++ name)
  /-- The letters of a keyword may be small or capital, each for itself. -/
  | keyword {k : Keyword} {word : String} : word.toList.map Char.toUpper = k.spelling.toList →
      Spelled (.keyword k) word
  | symbol (s : Symbol) : Spelled (.symbol s) s.spelling
  | unequal : Spelled (.symbol .notEqual) "!="

end Token

-- ---------------------------------------------------------------------------
-- Quotes and digits
-- ---------------------------------------------------------------------------

namespace Lexer

variable {c : Char} {cs rest : List Char}

theorem stringBody?_doubled (hrest : rest.head? ≠ some '\x27') :
    stringBody? (doubled cs ++ '\x27' :: rest) = some (cs, rest) := by
  induction cs with
  | nil =>
    show stringBody? ('\x27' :: rest) = some ([], rest)
    rw [stringBody?]
    rintro cs rfl
    exact hrest rfl
  | cons c cs ih =>
    by_cases hc : c = '\x27'
    · simp [doubled, hc, stringBody?, ih]
    · rw [doubled, if_neg hc, List.cons_append, stringBody?, ih]
      · rfl
      · exact fun _ h _ => hc h
      · exact hc

theorem Reads.string (s : String) (h : stops (· == '\x27') rest = true) :
    Reads ("\x27" ++ String.ofList (doubled s.toList) ++ "\x27").toList [.string s] rest := by
  have hrest : rest.head? ≠ some '\x27' := by
    cases rest with
    | nil => simp
    | cons c cs => simpa [stops] using h
  have htext : ("\x27" ++ String.ofList (doubled s.toList) ++ "\x27").toList =
      '\x27' :: (doubled s.toList ++ ['\x27']) := by simp
  rw [htext]
  refine Reads.token (skip_of_not_blank (by decide) (by decide)) fun size => ?_
  show Lexer.string (doubled s.toList ++ ['\x27'] ++ rest) = _
  rw [Lexer.string, List.append_assoc, List.singleton_append, stringBody?_doubled hrest]
  simp

theorem Reads.quoted {name : String} (hn : '\x22' ∉ name.toList) :
    Reads ("\x22" ++ name ++ "\x22").toList [.identifier name] rest := by
  have hchars : ∀ c ∈ name.toList, (c != '\x22') = true := by
    intro c hc
    rw [bne_iff_ne]
    rintro rfl
    exact hn hc
  have htext : ("\x22" ++ name ++ "\x22").toList = '\x22' :: (name.toList ++ ['\x22']) := by simp
  rw [htext]
  refine Reads.token (skip_of_not_blank (by decide) (by decide)) fun size => ?_
  show quotedIdentifier (name.toList ++ ['\x22'] ++ rest) = _
  rw [quotedIdentifier, List.append_assoc, List.takeWhile_append_of_pos hchars,
    List.dropWhile_append_of_pos hchars]
  simp

theorem isWordStart_of_isDigit (h : c.isDigit = true) : isWordStart c = false := by
  have hrange : 48 ≤ c.toNat ∧ c.toNat ≤ 57 := Char.isDigit_iff_toNat.1 h
  have halpha : ¬ c.isAlpha = true := by
    rw [isAlpha_iff_toNat]
    omega
  have hne : c ≠ '_' := by
    rintro rfl
    cases h
  have hlt : c.toNat < 128 := by omega
  simp [isWordStart, Text.isAlphabetic, hlt, halpha, hne]

theorem Reads.number {digits : String} (hne : digits ≠ "")
    (hdigits : ∀ c ∈ digits.toList, c.isDigit = true) (h : stops Char.isDigit rest = true) :
    Reads digits.toList [.number digits] rest := by
  cases htext : digits.toList with
  | nil => exact absurd (by simpa using htext) hne
  | cons c cs =>
    rw [htext] at hdigits
    have hc : c.isDigit = true := hdigits c (by simp)
    have hword := isWordChar_of_isDigit hc
    refine Reads.token (skip_of_isWordChar hword) fun size => ?_
    obtain ⟨htake, hdrop⟩ := takeWhile_append_of_stops
      (fun d hd => hdigits d (List.mem_cons_of_mem _ hd)) h
    rw [token_of_isWordChar hword, isWordStart_of_isDigit hc, htake, hdrop, ← htext]
    simp [hc]

-- ---------------------------------------------------------------------------
-- One token after the other
-- ---------------------------------------------------------------------------

theorem Reads.spelled {t : Token} {text : String} (ht : t.Writable) (htext : t.Spelled text)
    (h : ends rest = true) : Reads text.toList [t] rest := by
  cases htext with
  | quoted name => exact Reads.quoted ht
  | plain hname => exact Reads.plain hname h
  | number digits => exact Reads.number ht.1 ht.2 (stops_of_ends (by decide) h)
  | string s => exact Reads.string s (stops_of_ends (by decide) h)
  | positional => exact Reads.positional
  | numbered n => exact Reads.numbered ht h
  | named name => exact Reads.named ht.1 ht.2 h
  | keyword hk => exact Reads.keywordOfCase hk (stops_of_ends (by decide) h)
  | symbol s => exact Reads.symbol s h
  | unequal => exact Reads.token rfl fun _ => rfl

theorem Reads.spelledAll {ts : List Token} {texts : List String} (hts : ∀ t ∈ ts, t.Writable)
    (htexts : List.Forall₂ Token.Spelled ts texts) (h : ends rest = true) :
    Reads (" ".intercalate texts).toList ts rest := by
  induction htexts with
  | nil => simpa using Reads.nil
  | @cons t text ts texts ht htexts ih =>
    have htoken := hts t (by simp)
    have htail := ih fun t' ht' => hts t' (List.mem_cons_of_mem _ ht')
    cases htexts with
    | nil => simpa using Reads.spelled htoken ht h
    | cons ht' htexts =>
      simpa [String.intercalate_cons_cons] using
        (Reads.spelled htoken ht rfl).append (Reads.blank.append htail)

end Lexer

namespace Token

theorem Writable.exists_spelled {t : Token} (h : t.Writable) : ∃ text, t.Spelled text := by
  cases t with
  | identifier name => exact ⟨_, .quoted name⟩
  | number digits => exact ⟨_, .number digits⟩
  | string s => exact ⟨_, .string s⟩
  | placeholder m =>
    cases m with
    | positional => exact ⟨_, .positional⟩
    | numbered n => exact ⟨_, .numbered n⟩
    | named name => exact ⟨_, .named name⟩
  | keyword k => exact ⟨k.spelling, .keyword (by cases k <;> decide)⟩
  | symbol s => exact ⟨_, .symbol s⟩
  | eof => exact absurd h id

/-- Tokens can be written, and however each of them is, scanning the text with blanks between them
gives them back. -/
theorem scan_spelled {ts : List Token} (h : ∀ t ∈ ts, t.Writable) :
    (∃ texts, List.Forall₂ Spelled ts texts) ∧
    ∀ texts, List.Forall₂ Spelled ts texts →
      Token.scan (" ".intercalate texts) = .ok (ts ++ [.eof]) := by
  refine ⟨?_, fun texts htexts => (Reads.spelledAll h htexts rfl).scan⟩
  induction ts with
  | nil => exact ⟨[], .nil⟩
  | cons t ts ih =>
    obtain ⟨text, htext⟩ := (h t (by simp)).exists_spelled
    obtain ⟨texts, htexts⟩ := ih fun t' ht' => h t' (List.mem_cons_of_mem _ ht')
    exact ⟨text :: texts, .cons htext htexts⟩

theorem scan_spelled_mixed :
    Token.scan ("sElEcT \x22--\x22 != <> - - it \x27it\x27\x27s -- ? \x27\x27\x27 007 " ++
        "$18446744073709551615 @p_1 ?") =
      .ok [.keyword .select, .identifier "--", .symbol .notEqual, .symbol .notEqual, .symbol .minus,
        .symbol .minus, .identifier "it", .string "it\x27s -- ? \x27", .number "007",
        .placeholder (.numbered 18446744073709551615), .placeholder (.named "p_1"),
        .placeholder .positional, .eof] := by
  have htexts : List.Forall₂ Spelled
      [.keyword .select, .identifier "--", .symbol .notEqual, .symbol .notEqual, .symbol .minus,
        .symbol .minus, .identifier "it", .string "it\x27s -- ? \x27", .number "007",
        .placeholder (.numbered 18446744073709551615), .placeholder (.named "p_1"),
        .placeholder .positional]
      ["sElEcT", "\x22--\x22", "!=", "<>", "-", "-", "it", "\x27it\x27\x27s -- ? \x27\x27\x27",
        "007", "$18446744073709551615", "@p_1", "?"] :=
    .cons (.keyword (by decide)) (.cons (.quoted _) (.cons .unequal (.cons (.symbol _)
      (.cons (.symbol _) (.cons (.symbol _) (.cons (.plain (by decide +kernel)) (.cons (.string _)
        (.cons (.number _) (.cons (.numbered _) (.cons (.named _) (.cons .positional .nil)))))))))))
  exact (scan_spelled (by simp [Writable]; decide +kernel)).2 _ htexts

end Token

end PredicateSql
