import StyleCheck.Proofs.Value.Lexicon
import StyleCheck.Proofs.Value.Locality

/-!
# Words

A word of a value is a call if a parenthesis follows, whatever the lexicon says about it. Without
one, the lexicon gives it a kind, and it is an identifier only if it is nothing else, in particular
no preset.

## Main definitions

- `IsWord`: words, by their characters.
- `callText`, `callToken`: a call with given arguments, and its token.

## Main statements

- `not_mem_presets_of_identifier`: no identifier in a value is a preset.
- `lex_callText`: a call is one token, with the tokens of its arguments below.
-/

namespace StyleCheck.Value

open Text

/-! ## §1 Identifiers -/

variable {l l' : Lexicon}

/-- What a lexicon calls an identifier is no preset of its own, for `wordKind` asks for presets
first. -/
theorem Lexicon.not_mem_presets_of_wordKind {word : Text}
    (identifier : l.wordKind word = .identifier) : word ∉ l.presets := by
  unfold wordKind at identifier
  split_ifs at identifier with truth modifier direction preset function
  simpa using preset

theorem Reclassified.identifier_iff {text : Text} {k k' : TokenKind}
    (h : Reclassified l l' text k k') (notPreset : text ∉ l.presets)
    (notPreset' : text ∉ l'.presets) : k = .identifier ↔ k' = .identifier := by
  cases h with
  | form => exact Iff.rfl
  | unit => exact iff_of_false (l.unitKind_ne (by decide) _) (l'.unitKind_ne (by decide) _)
  | word => rw [Lexicon.wordKind_congr (iff_of_false notPreset notPreset')]

/-- A word is an identifier if it is not called and the lexicon says so.

Of all lexemes, only words can be identifiers, and `Lexicon.wordKind` decides which are. -/
theorem Lexeme.wordKind_of_identifier {c : CodePoint} {cs : Text}
    (identifier : (read l c cs).kind = .identifier) :
    l.wordKind (c :: (read l c cs).tail) = .identifier := by
  obtain ⟨-, isWord⟩ | ⟨kind, -⟩ := read_eq_word_or l c cs
  · rw [isWord, word_eq] at identifier ⊢
    unfold wordBehind at identifier ⊢
    split at identifier
    · cases identifier
    · rw [prepend, List.append_nil]
      exact identifier
  · rw [identifier] at kind
    exact absurd (List.mem_cons_of_mem _ List.mem_cons_self) kind

theorem not_mem_presets_of_identifier {text : Text} {t : Token}
    (ht : t ∈ Token.flatten (lex l text)) (identifier : t.kind = .identifier) :
    t.text ∉ l.presets := by
  obtain ⟨place, c, cs, -, rfl⟩ := exists_firstToken_of_mem_flatten (StandsAt.self text) ht
  exact Lexicon.not_mem_presets_of_wordKind (Lexeme.wordKind_of_identifier identifier)

/-! ## §2 Calls -/

/-- What starts like a name is a word.

The other lexemes start with characters that are no letters, as `read` tells them apart by the first
one. -/
theorem Lexeme.read_eq_word (lexicon : Lexicon) {c : CodePoint} (start : isNameStart c = true)
    (cs : Text) : read lexicon c cs = word lexicon c cs := by
  -- A name starts with one of a few characters, and none of them is of another class.
  have few : c.toNat < 123 := by
    simp only [isNameStart, isLetter, isSmall, isCapital, Bool.or_eq_true, Bool.and_eq_true,
      decide_eq_true_eq, beq_iff_eq, CodePoint.le_iff_toNat_le, CodePoint.toNat,
      Char.reduceToNat] at start ⊢
    obtain letter | rfl := start
    · omega
    · decide
  have apart : ∀ n < 123, isNameStart (CodePoint.ofNat n) = true →
      isBlank (CodePoint.ofNat n) = false ∧ isDigit (CodePoint.ofNat n) = false ∧
      isOperator (CodePoint.ofNat n) = false ∧ isPunctuation (CodePoint.ofNat n) = false ∧
      CodePoint.ofNat n ∉ [CodePoint.char '#', CodePoint.char '$', CodePoint.char '"',
        CodePoint.char '\'', CodePoint.char '.', CodePoint.char '+', CodePoint.char '-'] := by
    decide +kernel
  have classes := apart c.toNat few
  rw [CodePoint.ofNat_toNat] at classes
  obtain ⟨blank, digit, operator, punctuation, others⟩ := classes start
  simp only [List.mem_cons, List.not_mem_nil, or_false, not_or] at others
  have unsigned : startsUnsigned (c :: cs) = false := by
    simp [startsUnsigned, startsWithDigit, digit, others]
  -- None of the earlier cases applies, so the word is read.
  unfold read
  simp [blank, unsigned, operator, punctuation, start, others]

/-- A name in front of a parenthesis is called, and what stands behind the parenthesis makes its
arguments.

How far the arguments reach is told by `callBehind`. -/
theorem Lexeme.read_open (lexicon : Lexicon) {c : CodePoint} {name : Text}
    (start : isNameStart c = true) (dashed : name.all isDashedNameChar = true) (inside : Text) :
    read lexicon c (name ++ CodePoint.char '(' :: inside) =
      prepend name (callBehind (name.length + 1) inside) := by
  rw [read_eq_word lexicon start, word_eq, dashedName_open dashed, List.drop_left]
  rfl

/-- A name in front of balanced parentheses makes a call.

The parenthesis that ends its arguments is the one behind `arguments`, by `untilClosed_of_balanced`.
-/
theorem Lexeme.callParts_of_balanced (lexicon : Lexicon) {c : CodePoint} {name arguments : Text}
    (start : isNameStart c = true) (dashed : name.all isDashedNameChar = true)
    (balanced : Balanced arguments) (rest : Text) :
    CallParts lexicon c name arguments [CodePoint.char ')'] rest := by
  refine ⟨?_, .inl ⟨rfl, balanced⟩, ?_⟩
  · rw [← dashedName_open dashed []]
    exact not_open_mem_word start _
  · rw [List.append_assoc, List.cons_append, List.append_assoc, List.singleton_append,
      read_open lexicon start dashed]
    simp only [prepend, callBehind, untilClosed_of_balanced balanced, List.drop_left,
      List.take_succ_cons, List.take_zero]

/-- The words that can be called: what starts and goes on like a name. -/
def IsWord (word : Text) : Prop :=
  ∃ c name, word = c :: name ∧ isNameStart c = true ∧ name.all isDashedNameChar = true

/-- The text of a call. -/
def callText (word arguments : Text) : Text :=
  word ++ CodePoint.char '(' :: (arguments ++ [CodePoint.char ')'])

/-- The token of a call: its children are the tokens of the `arguments`, moved to where these stand
in the call. -/
def callToken (lexicon : Lexicon) (word arguments : Text) : Token where
  kind := .function
  text := callText word arguments
  start := 0
  stop := (callText word arguments).length
  children := Token.shiftAll (word.length + 1 : Nat) (lex lexicon arguments)

/-- A call with balanced arguments is one token, the `callToken`. The tokens below it are those of
the arguments alone, moved to where these stand in the call. -/
theorem lex_callText (lexicon : Lexicon) {word arguments : Text} (isWord : IsWord word)
    (balanced : Balanced arguments) :
    lex lexicon (callText word arguments) = [callToken lexicon word arguments] := by
  obtain ⟨c, name, rfl, start, dashed⟩ := isWord
  have parts := Lexeme.callParts_of_balanced lexicon start dashed balanced []
  have read := congrArg Lexeme.tail parts.read_eq
  have token := parts.first_eq 0
  rw [List.append_nil] at read token
  rw [lexFrom_add, Nat.zero_add, Nat.add_comm 1] at token
  -- The first token takes the whole call, so it is the only one.
  rw [lex, callText, List.cons_append, (takesTail lexicon).lexFrom_single read, token]
  rfl

end StyleCheck.Value
