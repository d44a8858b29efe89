import StyleCheck.Proofs.Value.Tokens

/-!
# Lexing values in parts

Nothing that stands behind a token of a value, or in front of it, has a say in what the token is.
So a value can be lexed in parts, as long as it is cut between tokens; and the same holds of the
arguments of its calls.

## Main definitions

- `IsTokenList`: the lists of tokens in a value.

## Main statements

- `lexFrom_local`: the lexer of values is local.
- `lex_parts`: what some tokens in a row take of the value is lexed alone as within the value.
-/

namespace StyleCheck.Value

open Text
open Token (flatten shift shiftAll)

variable {lexicon : Lexicon}

/-! ## §1 The lexer is local -/

/-- Tokens at another position are the same ones, moved, and so is all that hangs below them.

The moved token and its children are compared field by field; for the children there is the
hypothesis of `lexFrom_induction` for the arguments. -/
theorem lexFrom_add (lexicon : Lexicon) (position delta : Nat) (text : Text) :
    lexFrom lexicon (position + delta) text = shiftAll delta (lexFrom lexicon position text) := by
  induction position, text using lexFrom_induction lexicon with
  | nil position => rw [lexFrom_nil, lexFrom_nil, Token.shiftAll_nil]
  | call position c name arguments close rest parts step inside behind =>
    -- What a round takes does not depend on the position, by `lexStep_iff`.
    have moved : LexStep (lexFrom lexicon) (firstToken lexicon) (position + delta) c _ rest :=
      (takesTail lexicon).lexStep_iff.mpr ((takesTail lexicon).lexStep_iff.mp step)
    rw [step.lexFrom_eq, moved.lexFrom_eq, Token.shiftAll_cons, ← behind, Nat.add_right_comm]
    refine congrArg (· :: _) ?_
    -- The children move with the token, by the hypothesis for the arguments.
    rw [parts.first_eq, parts.first_eq, shift, ← inside]
    simp only [Token.mk.injEq, true_and]
    refine ⟨by push_cast; omega, by push_cast; omega, ?_⟩
    rw [Nat.add_right_comm]
  | plain position c tail rest plainLexeme step behind =>
    have moved : LexStep (lexFrom lexicon) (firstToken lexicon) (position + delta) c tail rest :=
      (takesTail lexicon).lexStep_iff.mpr ((takesTail lexicon).lexStep_iff.mp step)
    rw [step.lexFrom_eq, moved.lexFrom_eq, Token.shiftAll_cons, ← behind, Nat.add_right_comm]
    refine congrArg (· :: _) ?_
    rw [firstToken, firstToken, plainLexeme, shift]
    simp only [Token.mk.injEq, true_and]
    exact ⟨by push_cast; omega, by push_cast; omega, rfl⟩

/-- A token depends only on the characters it takes.

What it takes is read alike in the front and in all of the text, by `Reads.read_front`. -/
theorem firstToken_front {position : Nat} {c : CodePoint} {front back : Text}
    (enough : (firstToken lexicon position c (front ++ back)).text.length ≤ front.length + 1) :
    firstToken lexicon position c front = firstToken lexicon position c (front ++ back) := by
  have same : Lexeme.read lexicon c front = Lexeme.read lexicon c (front ++ back) := by
    refine (Lexeme.reads_read lexicon c).read_front ?_
    rw [firstToken, List.length_cons] at enough
    omega
  obtain ⟨name, arguments, close, rest, rfl, parts⟩ | ⟨plain, -⟩ :=
    Lexeme.read_call_or_plain lexicon c front
  · -- A call takes its arguments along, so they are the same ones in the longer text.
    have longer : Lexeme.CallParts lexicon c name arguments close (rest ++ back) := by
      refine ⟨parts.noneBefore, parts.closedBy, ?_⟩
      rw [← List.append_assoc, ← same, parts.read_eq]
    rw [parts.first_eq, List.append_assoc, longer.first_eq]
  · rw [firstToken, firstToken, ← same, plain]

/-- The lexer of values is local, which is what `lex_parts` rests on. -/
theorem lexFrom_local (lexicon : Lexicon) :
    Lexes.Local (lexFrom lexicon) (firstToken lexicon) where
  toLexes := lexes lexicon
  stable _ _ _ _ enough := firstToken_front enough
  moved := lexFrom_add lexicon

/-! ## §2 Lists of tokens -/

/-- The lists of tokens in a value: that of the whole value, and those of the arguments of its
calls.

The calls are taken at any depth, by `flatten`. -/
def IsTokenList (lexicon : Lexicon) (text : Text) (tokens : List Token) : Prop :=
  tokens = lex lexicon text ∨ ∃ t ∈ flatten (lex lexicon text), IsCall t ∧ tokens = t.children

/-- Every list of tokens in a value is what `lexFrom` makes of some part of the value. -/
theorem IsTokenList.exists_part {text : Text} {tokens : List Token}
    (h : IsTokenList lexicon text tokens) :
    ∃ position part, StandsAt text position part ∧ tokens = lexFrom lexicon position part := by
  obtain rfl | ⟨t, ht, call, rfl⟩ := h
  · exact ⟨0, text, .self text, rfl⟩
  · obtain ⟨place, c, cs, stands, rfl⟩ := exists_firstToken_of_mem_flatten (StandsAt.self text) ht
    obtain ⟨name, arguments, close, rest, rfl, parts⟩ | ⟨-, noCall⟩ :=
      Lexeme.read_call_or_plain lexicon c cs
    · refine ⟨_, arguments, Lexeme.CallParts.standsAt_arguments stands, ?_⟩
      rw [parts.first_eq]
    · exact absurd call noCall

/-! ## §3 Parts of values -/

/-- What stands between the start of one token of a list and the end of another is lexed alone to
the tokens between.

For the list of a part this is `Lexes.Local.lex_between`. -/
theorem lex_between {text : Text} {tokens : List Token} (h : IsTokenList lexicon text tokens)
    {i j : Nat} (ordered : i ≤ j) (_ : i < tokens.length) (inside : j < tokens.length) :
    lex lexicon (slice text tokens[i].start.toNat tokens[j].stop.toNat) =
      shiftAll (-tokens[i].start) ((tokens.take (j + 1)).drop i) := by
  obtain ⟨position, part, stands, rfl⟩ := h.exists_part
  exact (lexFrom_local lexicon).lex_between stands ordered inside

/-- The text of a token at any depth is lexed to that token, moved to the start by `shift`. -/
theorem lex_text {text : Text} {t : Token} (ht : t ∈ flatten (lex lexicon text)) :
    lex lexicon t.text = [shift (-t.start) t] := by
  have isLocal := lexFrom_local lexicon
  obtain ⟨place, c, cs, stands, rfl⟩ := exists_firstToken_of_mem_flatten (StandsAt.self text) ht
  obtain ⟨tail, rest, rfl, step⟩ := isLocal.cons place c cs
  have isSlice := (isLocal.first_isSliceOf stands).1
  -- Where the token stands, the lexer makes it and goes on behind it.
  have lexed : lexFrom lexicon place (c :: (tail ++ rest)) =
      [] ++ ([firstToken lexicon place c (tail ++ rest)] ++
        lexFrom lexicon (place + (tail.length + 1)) rest) := step.lexFrom_eq
  have covers : Tiles [firstToken lexicon place c (tail ++ rest)]
      (firstToken lexicon place c (tail ++ rest)).start
      (firstToken lexicon place c (tail ++ rest)).stop := ⟨rfl, rfl⟩
  rw [isSlice.2.2.2]
  exact isLocal.lex_middle stands lexed covers (List.cons_ne_nil _ _)

/-- A value that is cut where one of its top-level tokens ends is lexed in two halves.

The tokens of the second half stand at the offsets of the value, so they have to be moved back by
`cut`. -/
theorem lex_cut {text : Text} {left right : List Token} (lexed : lex lexicon text = left ++ right)
    {cut : Nat} (ends : Tiles left 0 cut) :
    lex lexicon (text.take cut) = left ∧ lex lexicon (text.drop cut) = shiftAll (-cut) right := by
  have isLocal := lexFrom_local lexicon
  obtain ⟨front, back, rfl, hfront, hback⟩ := isLocal.split lexed
  have covers := isLocal.tiles 0 front
  rw [hfront] at covers
  -- The tokens on the left cover the front, so they end where it does.
  have long : cut = front.length := by
    have same := ends.unique covers
    omega
  rw [long, List.take_left, List.drop_left]
  refine ⟨hfront, ?_⟩
  rw [← hback, lexFrom_add, Token.shiftAll_neg_shiftAll]
  rfl

/-- Values can be lexed in parts.

In every list of tokens of a value, what stands between the start of one token and the end of
another is lexed alone to the tokens between, moved to the start; hence each token at any depth is
the only token of its own text, and cutting the value where some of its top-level tokens end cuts
the list of its tokens. -/
theorem lex_parts (lexicon : Lexicon) (text : Text) :
    (∀ tokens, IsTokenList lexicon text tokens →
      ∀ i j, ∀ (_ : i < tokens.length) (_ : j < tokens.length), i ≤ j →
      lex lexicon (slice text tokens[i].start.toNat tokens[j].stop.toNat) =
        shiftAll (-tokens[i].start) ((tokens.take (j + 1)).drop i)) ∧
    (∀ t ∈ flatten (lex lexicon text), lex lexicon t.text = [shift (-t.start) t]) ∧
    (∀ left right, lex lexicon text = left ++ right → ∀ cut : Nat, Tiles left 0 cut →
      lex lexicon (text.take cut) = left ∧
        lex lexicon (text.drop cut) = shiftAll (-cut) right) := by
  refine ⟨?_, ?_, ?_⟩
  · intro tokens h i j first last ordered
    exact lex_between h ordered first last
  · intro t ht
    exact lex_text ht
  · intro left right lexed cut ends
    exact lex_cut lexed ends

theorem lex_parts_open_call :
    ∃ t ∈ lex {} "f(g(a) b".toText, ∃ (_ : 0 < t.children.length) (_ : 2 < t.children.length),
      lex {} (slice "f(g(a) b".toText t.children[0].start.toNat t.children[2].stop.toNat) =
        shiftAll (-t.children[0].start) ((t.children.take 3).drop 0) := by
  have call : ∃ t ∈ lex {} "f(g(a) b".toText,
      (t.kind = .function ∧ CodePoint.char '(' ∈ t.text) ∧ t.children.length = 3 := by
    decide +kernel
  obtain ⟨t, ht, call, three⟩ := call
  have there := Token.mem_flatten.mpr ⟨t, ht, .inl rfl⟩
  have arguments : IsTokenList {} "f(g(a) b".toText t.children := .inr ⟨t, there, call, rfl⟩
  refine ⟨t, ht, by omega, by omega, ?_⟩
  exact (lex_parts {} "f(g(a) b".toText).1 t.children arguments 0 2 _ _ (by omega)

end StyleCheck.Value
