import StyleCheck.Proofs.Text.Cursor
import StyleCheck.Proofs.Text.Shortest
import StyleCheck.Proofs.Value.Words

/-!
# Where calls and strings end

A call and a group in parentheses are read by two scans that count in different ways: one starts at
the parenthesis and counts it, the other one starts behind it with one parenthesis open. Both end at
the same place, which can be told without a scan. Where a string ends is a matter of parity: a quote
ends it unless an odd number of backslashes stands in front, so a text that is escaped can be put
between quotes and found again, whatever it holds.

## Main statements

- `readGroup_shortest`: what is read of a group, and that a call ends with it.
- `readQuoted_enclose`: what is read of a quoted text, and that an escaped one is read as it is.
-/

namespace StyleCheck.Value

open Text

/-! ## §1 Calls -/

/-- Behind its name, a call goes on as far as the group does.

This is where the two scans meet, by `group_parentheses`. -/
theorem Lexeme.tail_callBehind (place : Nat) (inside : Text) :
    (callBehind place inside).tail = group '(' ')' (CodePoint.char '(' :: inside) :=
  (group_parentheses inside).symm

/-- A word that stands in front of a parenthesis is lexed to a call, which ends with the group.

The word starts at `start` and the parenthesis stands at `position`. -/
theorem exists_call_of_word (lexicon : Lexicon) {source : Text} {start position : Nat}
    {c : CodePoint} {name : Text} (isStart : isNameStart c = true)
    (dashed : name.all isDashedNameChar = true)
    (opens : source[position]? = some (CodePoint.char '('))
    (ahead : source.drop start = c :: (name ++ source.drop position)) :
    ∃ call rest, lexFrom lexicon start (source.drop start) = call :: rest ∧ IsCall call ∧
      call.stop = (position + (group '(' ')' (source.drop position)).length : Nat) := by
  -- The word stands right in front of the parenthesis.
  have place : start + 1 + name.length = position := by
    have long := congrArg List.length ahead
    obtain ⟨inside, -⟩ := List.getElem?_eq_some_iff.mp opens
    simp only [List.length_cons, List.length_append, List.length_drop] at long
    omega
  rw [drop_eq_cons_of_getElem? opens] at ahead ⊢
  have read := Lexeme.read_open lexicon isStart dashed (source.drop (position + 1))
  rw [ahead]
  refine ⟨_, _, (takesTail lexicon).cons start c _, ⟨?_, ?_⟩, ?_⟩
  · rw [firstToken, read]
    rfl
  · rw [firstToken, read]
    simp [Lexeme.prepend, Lexeme.callBehind]
  · rw [firstToken, read, Lexeme.prepend, List.length_append, ← Nat.add_assoc, place,
      Lexeme.tail_callBehind]

/-- At an opener, the cursor reads the shortest text from there that is not empty and holds as many
openers as closers, or all that is left if there is none, and stands right behind it.

Started behind an opening parenthesis, the scan for the arguments of a call comes to the same place
with one step over what it stops at, if the source goes on there; so every word in front of the
parenthesis makes a call that ends where the group does. -/
theorem readGroup_shortest {source : Text} {position : Nat} {opener closer : CodePoint}
    (apart : opener ≠ closer) (opens : source[position]? = some opener) :
    ∃ taken, (⟨source, position⟩ : Cursor).readGroup [opener] [closer] =
        .ok (taken, ⟨source, (position + taken.length : Nat)⟩) ∧
      IsShortest (fun front => front ≠ [] ∧ front.count opener = front.count closer)
        (source.drop position) taken ∧
      (opener = '(' → closer = ')' →
        (position + taken.length =
          min (position + 1 + (untilClosed 1 (source.drop (position + 1))).length + 1)
            source.length) ∧
        ∀ lexicon start c name, isNameStart c = true → name.all isDashedNameChar = true →
          source.drop start = c :: (name ++ source.drop position) → ∃ call rest,
            lexFrom lexicon start (source.drop start) = call :: rest ∧ IsCall call ∧
              call.stop = (position + taken.length : Nat)) := by
  have ahead := drop_eq_cons_of_getElem? opens
  obtain ⟨inside, -⟩ := List.getElem?_eq_some_iff.mp opens
  refine ⟨_, Cursor.readGroup_eq (Nat.le_of_lt inside), ?_, ?_⟩
  · rw [ahead]
    exact isShortest_group apart _
  · rintro rfl rfl
    refine ⟨?_, fun lexicon start c name isStart dashed word =>
      exists_call_of_word lexicon isStart dashed opens word⟩
    -- The scan for the arguments takes no more than there is, so one step over its end may be too
    -- far.
    have within : (untilClosed 1 (source.drop (position + 1))).length ≤
        (source.drop (position + 1)).length := (reads_untilClosed 1).length_le _
    rw [List.length_drop] at within
    rw [ahead, group_parentheses]
    simp only [List.length_cons, List.length_append, List.length_take, List.length_drop]
    omega

/-- A call with a group in its arguments, and a word behind it. -/
theorem readGroup_shortest_nested :
    (⟨"f(a(b)c)d".toText, (1 : Nat)⟩ : Cursor).readGroup ['('] [')'] =
        .ok ("(a(b)c)".toText, ⟨"f(a(b)c)d".toText, (8 : Nat)⟩) ∧
      IsShortest (fun front => front ≠ [] ∧
          front.count (CodePoint.char '(') = front.count (CodePoint.char ')'))
        "(a(b)c)d".toText "(a(b)c)".toText ∧
      ∃ call rest, lexFrom {} 0 "f(a(b)c)d".toText = call :: rest ∧ IsCall call ∧
        call.stop = (8 : Nat) := by
  have opens : "f(a(b)c)d".toText[1]? = some (CodePoint.char '(') := by decide
  have group : group '(' ')' ("f(a(b)c)d".toText.drop 1) = "(a(b)c)".toText := by decide
  have apart : CodePoint.char '(' ≠ CodePoint.char ')' := by decide
  obtain ⟨taken, read, shortest, parentheses⟩ := readGroup_shortest apart opens
  obtain rfl : "(a(b)c)".toText = taken := by
    rw [Cursor.readGroup_eq (by decide), group] at read
    exact congrArg Prod.fst (Except.ok.inj read)
  exact ⟨read, shortest, (parentheses rfl rfl).2 {} 0 'f' [] (by decide) rfl rfl⟩

/-! ## §2 Strings -/

theorem Lexeme.read_quote (lexicon : Lexicon) {quote : CodePoint}
    (isQuote : quote = '"' ∨ quote = '\'') (cs : Text) :
    read lexicon quote cs = { kind := .string, tail := quotedTail quote cs } := by
  obtain rfl | rfl := isQuote <;> rfl

/-- A text between quotes is one string.

The quotes in it are escaped, so by `quotedTail_escape` the last one ends the string. -/
theorem lex_enclose (lexicon : Lexicon) {quote : CodePoint} (isQuote : quote = '"' ∨ quote = '\'')
    (notBackslash : quote ≠ CodePoint.char '\\') (content : Text) :
    lex lexicon (enclose quote content) =
      [{ kind := .string, text := enclose quote content, start := 0
         stop := (enclose quote content).length, children := [] }] := by
  have read := Lexeme.read_quote lexicon isQuote (escape quote content ++ [quote])
  rw [quotedTail_escape notBackslash content []] at read
  -- The string takes everything, so it is the only token.
  have taken := congrArg Lexeme.tail read
  rw [lex, enclose, (takesTail lexicon).lexFrom_single taken, firstToken, read, List.length_cons,
    Nat.zero_add, Nat.add_comm]
  rfl

/-- An escaped text between quotes is read up to its last quote, whatever stands around it, and it
is lexed to one string.

At any quote, the cursor reads up to the first one that follows behind an even number of
backslashes, so that no pair of a backslash and a character takes it along, or to the end of the
source if there is none, and stands right behind what it has read. -/
theorem readQuoted_enclose {quote : CodePoint} (isQuote : quote = '"' ∨ quote = '\'') :
    (∀ content front rest : Text,
      (⟨front ++ (enclose quote content ++ rest), front.length⟩ : Cursor).readQuoted =
        .ok (enclose quote content, ⟨front ++ (enclose quote content ++ rest),
          (front.length + (enclose quote content).length : Nat)⟩)) ∧
    (∀ (lexicon : Lexicon) (content : Text), lex lexicon (enclose quote content) =
      [{ kind := .string, text := enclose quote content, start := 0
         stop := (enclose quote content).length, children := [] }]) ∧
    (∀ (source : Text) (position : Nat), source[position]? = some quote →
      ∃ taken, (⟨source, position⟩ : Cursor).readQuoted =
          .ok (taken, ⟨source, (position + taken.length : Nat)⟩) ∧
        IsShortest (fun front => ∃ content, front = quote :: (content ++ [quote]) ∧
          Even (backslashes content)) (source.drop position) taken) := by
  have notBackslash : quote ≠ CodePoint.char '\\' := by
    obtain rfl | rfl := isQuote <;> decide
  refine ⟨fun content front rest => ?_, fun lexicon => lex_enclose lexicon isQuote notBackslash,
    fun source position opens => ?_⟩
  · -- In front of the cursor lie the quote, the escaped content and the last quote.
    have ahead : (front ++ (enclose quote content ++ rest)).drop front.length =
        quote :: (escape quote content ++ quote :: rest) := by
      rw [List.drop_left, enclose]
      simp
    rw [Cursor.readQuoted_eq ahead, quotedTail_escape notBackslash]
    rfl
  · have ahead := drop_eq_cons_of_getElem? opens
    refine ⟨_, Cursor.readQuoted_eq ahead, ?_⟩
    rw [ahead]
    refine .cons (by simp) ((isShortest_quotedTail notBackslash _).of_iff fun tail => ?_)
    simp [ClosesQuote]

/-- A text that ends in a backslash and a quote, between quotes and among others; and a quote with a
lone backslash at the end. -/
theorem readQuoted_enclose_apostrophe :
    (⟨"f 'a\\\\\\'' b".toText, (2 : Nat)⟩ : Cursor).readQuoted =
        .ok (enclose '\'' "a\\'".toText, ⟨"f 'a\\\\\\'' b".toText, (9 : Nat)⟩) ∧
      lex {} "'a\\\\\\''".toText =
        [{ kind := .string, text := "'a\\\\\\''".toText, start := 0
           stop := (7 : Nat), children := [] }] ∧
      IsShortest (fun front => ∃ content,
          front = CodePoint.char '\'' :: (content ++ [CodePoint.char '\'']) ∧
          Even (backslashes content)) "'a\\".toText "'a\\".toText := by
  obtain ⟨reads, lexed, ends⟩ := readQuoted_enclose (.inr (Eq.refl (CodePoint.char '\'')))
  refine ⟨reads "a\\'".toText "f ".toText " b".toText, lexed {} "a\\'".toText, ?_⟩
  obtain ⟨taken, read, shortest⟩ := ends "'a\\".toText 0 rfl
  obtain rfl : "'a\\".toText = taken := by
    have whole : (⟨"'a\\".toText, (0 : Nat)⟩ : Cursor).readQuoted =
      .ok ("'a\\".toText, ⟨"'a\\".toText, (3 : Nat)⟩) := rfl
    exact congrArg Prod.fst (Except.ok.inj (whole.symm.trans read))
  exact shortest

end StyleCheck.Value
