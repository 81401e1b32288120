import PredicateSql.Proofs.Cursor
import PredicateSql.Proofs.Scanner

/-!
# Reading ends

Scanning and parsing by position, beside each other: whatever is read takes the position forward,
the position never passes the end, and a limit that is linear in what is ahead is never reached.
-/

namespace PredicateSql

structure Scanner.Progress (text : String) : Prop where
  moves : ∀ limit p t q, p ≤ text.length → next text.toList limit p = pure (t, q) →
    q ≤ text.length ∧ (t ≠ .eof → p < q) ∧ (t = .eof → q = text.length)
  fails : ∀ limit p e q, p ≤ text.length → next text.toList limit p = throw (e, q) →
    q ≤ text.length
  next_ends : ∀ limit p, p ≤ text.length → text.length - p + 1 < limit →
    Agrees text.toList (next text.toList limit p)
      ((Lexer.next? text.length (text.toList.drop p)).map (·.getD (.eof, [])))
  ends : ∀ limit, text.length + 2 < limit →
    Agrees text.toList (tokens text.toList limit 0) ((Token.scan text).map (·, []))
  /-- Besides the one `eof` at the end, there is at most a token for each character. -/
  tokens : ∀ ts, Token.scan text = .ok ts →
    ∃ us, ts = us ++ [.eof] ∧ .eof ∉ us ∧ us.length ≤ text.length

theorem scanner_progress (text : String) : Scanner.Progress text := by
  have hsize : text.toList.length = text.length := String.length_toList
  have hends (limit : Nat) (h : text.length + 2 < limit) : Scanner.Agrees text.toList
      (Scanner.tokens text.toList limit 0) ((Token.scan text).map (·, [])) :=
    Scanner.agrees_tokens (.start _) (by rwa [hsize])
  refine ⟨?_, ?_, ?_, hends, ?_⟩
  · intro limit p t q hp h
    obtain ⟨⟨-, heof, hlt⟩, hq⟩ :=
      (Scanner.ends_next (Nat.le_of_eq hsize) limit hp).of_eq_pure h
    exact ⟨hq, hlt, fun ht => Nat.le_antisymm hq (hsize ▸ heof ht)⟩
  · intro limit p e q hp h
    exact (Scanner.ends_next (Nat.le_of_eq hsize) limit hp).of_eq_throw h
  · intro limit p hp h
    rw [← hsize] at hp h ⊢
    exact Scanner.agrees_next ⟨hp, rfl⟩ (by rwa [List.length_drop])
  · intro ts hts
    -- with enough of a limit the scanner has found the same tokens, one at a time
    have hagrees := hends (text.length + 3) (Nat.lt_succ_self _)
    rw [hts] at hagrees
    obtain ⟨q, hscan, -⟩ := hagrees.exists_of_ok
    obtain ⟨⟨-, us, rfl, hus, hle⟩, hq⟩ :=
      (Scanner.ends_tokens (Nat.le_of_eq hsize) _ (Nat.zero_le _)).of_eq_pure hscan
    exact ⟨us, rfl, hus, by omega⟩

structure Cursor.Progress (ts : List Token) : Prop where
  moves : ∀ s limit k p tree k' q, read ts limit s k p = pure ((tree, k'), q) →
    p < q ∧ q ≤ ts.length
  fails : ∀ s limit k p f q, read ts limit s k p = throw (f, q) → q ≤ max p ts.length
  /-- A limit of eight for each token ahead suffices to read as the parser does. -/
  ends : ∀ (s : Parser.Strength) limit k p, 8 * (ts.length - p) + s.rank < limit →
    Agrees ts (read ts limit s k p)
      (s.reader (fun k us _ => Parser.condition k us) k (ts.drop p) (Nat.le_refl _))
  leaves : ∀ (s : Parser.Strength) k p tree k' rest,
    Parser.Gives (s.reader (fun k us _ => Parser.condition k us) k (ts.drop p) (Nat.le_refl _))
      tree k' rest →
    ∃ q, p < q ∧ q ≤ ts.length ∧ ts.drop q = rest

theorem cursor_progress (ts : List Token) : Cursor.Progress ts := by
  -- a reading may start behind the end, where it fails at once
  have hread (s : Parser.Strength) (limit k p : Nat) :
      Attempt.Ends (max p ts.length) (fun _ q => p < q) (Cursor.read ts limit s k p) :=
    Cursor.moves_read (Nat.le_max_right p ts.length) limit s k p (Nat.le_max_left _ _)
  have hmoves : ∀ s limit k p tree k' q, Cursor.read ts limit s k p = pure ((tree, k'), q) →
      p < q ∧ q ≤ ts.length := by
    intro s limit k p tree k' q h
    obtain ⟨hlt, hle⟩ := (hread s limit k p).of_eq_pure h
    exact ⟨hlt, by omega⟩
  have hends (s : Parser.Strength) (limit k p : Nat) (h : 8 * (ts.length - p) + s.rank < limit) :
      Cursor.Agrees ts (Cursor.read ts limit s k p)
        (s.reader (fun k us _ => Parser.condition k us) k (ts.drop p) (Nat.le_refl _)) :=
    Cursor.agrees_read rfl _ (by rwa [List.length_drop])
  refine ⟨hmoves, ?_, hends, ?_⟩
  · intro s limit k p f q h
    exact (hread s limit k p).of_eq_throw h
  · intro s k p tree k' rest h
    obtain ⟨q, hread, hq⟩ := (hends s _ k p (Nat.lt_succ_self _)).exists_of_gives h
    obtain ⟨hlt, hle⟩ := hmoves s _ k p tree k' q hread
    exact ⟨q, hlt, hle, hq⟩

/-- Every text is scanned, and conditions are read from every list of tokens, in a number of steps
that its length bounds. Whatever is read takes the position forward, and never past the end. -/
theorem reading_progress (text : String) (ts : List Token) :
    Scanner.Progress text ∧ Cursor.Progress ts :=
  ⟨scanner_progress text, cursor_progress ts⟩

/-- A comment stands before the token, a string has no end, and the tokens have no `eof`: the first
list ends with its condition, the second within it. -/
theorem reading_progress_cut :
    (Scanner.next "a--b\n<".toList 20 1 = pure (.symbol .less, 6) ∧ 6 ≤ "a--b\n<".length ∧ 1 < 6) ∧
    (Scanner.next "'b".toList 20 0 = throw (.unterminatedString, 2) ∧ 2 ≤ "'b".length) ∧
    (Cursor.read [.symbol .leftParen, .identifier "a", .symbol .plus, .placeholder .positional] 40
        .disjunction 0 1 =
          pure ((.arith .add (.column "a") (.placeholder (.positional 0)), 1), 4) ∧ 1 < 4 ∧
      4 ≤ [Token.symbol .leftParen, .identifier "a", .symbol .plus,
        .placeholder .positional].length) ∧
    Cursor.read [.identifier "a", .symbol .equal] 40 .disjunction 0 0 =
      throw (⟨.unexpected .eof, 0⟩, 2) ∧
    Cursor.Agrees [.identifier "a", .symbol .equal]
      (Cursor.read [.identifier "a", .symbol .equal] 40 .disjunction 0 0)
      (Parser.Strength.disjunction.reader (fun k us _ => Parser.condition k us) 0
        [.identifier "a", .symbol .equal] (Nat.le_refl _)) := by
  have hless : Scanner.next "a--b\n<".toList 20 1 = pure (.symbol .less, 6) := rfl
  have hcut : Scanner.next "'b".toList 20 0 = throw (.unterminatedString, 2) := rfl
  have hread : Cursor.read [.symbol .leftParen, .identifier "a", .symbol .plus,
      .placeholder .positional] 40 .disjunction 0 1 =
      pure ((.arith .add (.column "a") (.placeholder (.positional 0)), 1), 4) := rfl
  have hmoves := (reading_progress "a--b\n<" []).1.moves 20 1 _ 6 (by decide) hless
  exact ⟨⟨hless, hmoves.1, hmoves.2.1 (by simp)⟩,
    ⟨hcut, (reading_progress "'b" []).1.fails 20 0 _ 2 (by decide) hcut⟩,
    ⟨hread, (reading_progress "" _).2.moves _ _ _ _ _ _ _ hread⟩, rfl,
    (reading_progress "" [.identifier "a", .symbol .equal]).2.ends .disjunction 40 0 0 (by decide)⟩

end PredicateSql
