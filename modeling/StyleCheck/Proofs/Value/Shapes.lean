import StyleCheck.Proofs.Value.Numbers
import StyleCheck.Proofs.Value.Words

/-!
# The shape of token trees

Two lexicons cut a value into trees of the same shape: the same texts at the same places, below one
another in the same way. The kinds can differ at leaves only, and only in two ways. A unit of the
style sheet language is one of the project where the lexicon lists it, and a bare word is a preset
where the lexicon has one of this name. So a lexicon is no more than its units and its presets, and
the tokens that it permits have no say.

## Main definitions

- `Knows`: the kinds that a text has by what only one of two lexicons knows.
- `SameShape`: token trees that differ by such kinds at most.

## Main statements

- `lexFrom_congr`: lexicons with the same units and presets.
- `lex_sameShape`: the trees of a value under any two lexicons.
-/

namespace StyleCheck.Value

open Text

variable {l l' : Lexicon}

/-! ## §1 What one lexicon knows -/

/-- A name without hyphens, as units have it: it starts with an `isNameStart` and goes on with
`isNameChar`. -/
def IsName (cs : Text) : Prop :=
  ∃ c rest, cs = c :: rest ∧ isNameStart c = true ∧ rest.all isNameChar = true

/-- The kinds of a text that is known to the first of two lexicons and not to the second. -/
inductive Knows (l l' : Lexicon) : Text → TokenKind → TokenKind → Prop
  /-- A number whose unit belongs to the style sheet language, and to the project as well. -/
  | unit {literal unit : Text} : IsLiteral literal → IsName unit → unit ∈ l.units →
      unit ∉ l'.units → unit ∈ Vocabulary.cssUnits →
      Knows l l' (literal ++ unit) .customUnit .cssUnit
  /-- A preset with the name of a function that is not called. -/
  | function {word : Text} : IsWord word → word ∈ l.presets → word ∉ l'.presets →
      word ∈ Vocabulary.cssFunctions → Knows l l' word .preset .function
  /-- A preset with any other name. -/
  | identifier {word : Text} : IsWord word → word ∈ l.presets → word ∉ l'.presets →
      word ∉ Vocabulary.cssFunctions → Knows l l' word .preset .identifier

/-- The kinds that two lexicons give to a text: one kind, or those of a text that one of them
`Knows`. -/
def SameKind (l l' : Lexicon) (text : Text) (k k' : TokenKind) : Prop :=
  k = k' ∨ Knows l l' text k k' ∨ Knows l' l text k' k

/-- Token trees with the same texts at the same places and depths.

The kinds are the same but for those of leaves, which may differ by what one of the lexicons
`Knows`. -/
inductive SameShape (l l' : Lexicon) : Token → Token → Prop
  | branch {kind : TokenKind} {text : Text} {start stop : Int} {children children' : List Token} :
      List.Forall₂ (SameShape l l') children children' →
      SameShape l l' ⟨kind, text, start, stop, children⟩ ⟨kind, text, start, stop, children'⟩
  | leaf {k k' : TokenKind} {text : Text} {start stop : Int} : SameKind l l' text k k' →
      SameShape l l' ⟨k, text, start, stop, []⟩ ⟨k', text, start, stop, []⟩

/-! ## §2 Lexicons -/

namespace Lexicon

/-- A unit that only the first lexicon lists is of one kind for both, or the first `Knows` it. -/
theorem unitKind_knows {unit literal : Text} (isLiteral : IsLiteral literal)
    (isName : unit ≠ [] → IsName unit) (listed : unit ∈ l.units) (unlisted : unit ∉ l'.units) :
    l.unitKind unit = l'.unitKind unit ∨
      Knows l l' (literal ++ unit) (l.unitKind unit) (l'.unitKind unit) := by
  unfold unitKind
  simp only [List.contains_eq_mem, listed, unlisted, decide_true, decide_false, Bool.or_true,
    Bool.or_false, if_true]
  split_ifs with nothing builtIn css
  · exact .inl rfl
  · exact .inl rfl
  · have some : unit ≠ [] := by simpa using nothing
    exact .inr (.unit isLiteral (isName some) listed unlisted (of_decide_eq_true css))
  · exact .inl rfl

/-- A word that only the first lexicon has among its presets.

Words that `Vocabulary` reserves are the same to both, so they differ only over functions that are
not called and over identifiers. -/
theorem wordKind_knows {word : Text} (isWord : IsWord word) (listed : word ∈ l.presets)
    (unlisted : word ∉ l'.presets) : l.wordKind word = l'.wordKind word ∨
      Knows l l' word (l.wordKind word) (l'.wordKind word) := by
  unfold wordKind
  simp only [List.contains_eq_mem, listed, unlisted, decide_true, decide_false, if_true,
    Bool.false_eq_true, if_false]
  -- The reserved words come first, and presets are asked for only then.
  split_ifs with truth modifier direction function
  · exact .inl rfl
  · exact .inl rfl
  · exact .inl rfl
  · exact .inr (.function isWord listed unlisted (of_decide_eq_true function))
  · rw [decide_eq_true_iff] at function
    exact .inr (.identifier isWord listed unlisted function)

theorem sameKind_unit {unit literal : Text} (isLiteral : IsLiteral literal)
    (isName : unit ≠ [] → IsName unit) :
    SameKind l l' (literal ++ unit) (l.unitKind unit) (l'.unitKind unit) := by
  by_cases listed : unit ∈ l.units <;> by_cases listed' : unit ∈ l'.units
  · exact .inl (unitKind_congr (iff_of_true listed listed'))
  · exact (unitKind_knows isLiteral isName listed listed').imp_right .inl
  · exact (unitKind_knows isLiteral isName listed' listed).imp Eq.symm .inr
  · exact .inl (unitKind_congr (iff_of_false listed listed'))

theorem sameKind_word {word : Text} (isWord : IsWord word) :
    SameKind l l' word (l.wordKind word) (l'.wordKind word) := by
  by_cases listed : word ∈ l.presets <;> by_cases listed' : word ∈ l'.presets
  · exact .inl (wordKind_congr (iff_of_true listed listed'))
  · exact (wordKind_knows isWord listed listed').imp_right .inl
  · exact (wordKind_knows isWord listed' listed).imp Eq.symm .inr
  · exact .inl (wordKind_congr (iff_of_false listed listed'))

end Lexicon

/-! ## §3 Lexemes -/

/-- The unit ahead is a name, unless it is empty.

Behind the digits of a literal, a run of the characters of names does not start with a digit
(`head_name_behind`). -/
theorem isName_unitAhead {cs : Text} (some : unitAhead cs ≠ []) : IsName (unitAhead cs) := by
  have start : (unitAhead cs).head?.all isNameStart = true := by
    cases cs with
    | nil => rfl
    | cons c cs =>
      rw [unitAhead, literalAhead]
      -- A sign in front of the literal is no part of what the unit stands behind.
      split
      · exact head_name_behind cs
      · exact head_name_behind (c :: cs)
  have chars : (unitAhead cs).all isNameChar = true :=
    List.all_eq_true.mpr fun c mem => List.mem_takeWhile_imp mem
  obtain ⟨c, rest, unit⟩ := List.exists_cons_of_ne_nil some
  rw [unit] at start chars ⊢
  exact ⟨c, rest, rfl, start, (Bool.and_eq_true_iff.mp chars).2⟩

namespace Lexeme

variable {c : CodePoint} {cs : Text}

/-- So it is for the first lexeme of a text: for numbers, for words, and for whatever `read` comes
upon. -/
theorem sameKind_number (l l' : Lexicon) (starts : StartsNumber c cs) :
    SameKind l l' (c :: (number l c cs).tail) (number l c cs).kind (number l' c cs).kind := by
  have isLiteral := isLiteral_literalAhead starts
  have isName : unitAhead (c :: cs) ≠ [] → IsName (unitAhead (c :: cs)) := isName_unitAhead
  rw [unitAhead, literalAhead_eq starts, List.length_cons, List.drop_succ_cons] at isName
  rw [literalAhead_eq starts] at isLiteral
  rw [number_eq, number_eq]
  unfold unit
  split
  · exact .inl rfl
  · exact Lexicon.sameKind_unit isLiteral isName

theorem sameKind_word (l l' : Lexicon) (start : isNameStart c = true) :
    SameKind l l' (c :: (word l c cs).tail) (word l c cs).kind (word l' c cs).kind := by
  have dashed : (dashedName cs).all isDashedNameChar = true :=
    List.all_eq_true.mpr fun c mem => List.mem_takeWhile_imp mem
  rw [word_eq, word_eq]
  unfold wordBehind
  split
  · exact .inl rfl
  · rw [prepend, List.append_nil]
    exact Lexicon.sameKind_word ⟨c, _, rfl, start, dashed⟩

theorem sameKind_read (l l' : Lexicon) (c : CodePoint) (cs : Text) :
    SameKind l l' (c :: (read l c cs).tail) (read l c cs).kind (read l' c cs).kind := by
  refine read_cases (motive := fun f => SameKind l l' (c :: (f l).tail) (f l).kind (f l').kind)
    c cs ?number ?word ?hash ?dollar ?other
  case number => exact sameKind_number l l'
  case word => exact sameKind_word l l'
  case hash => exact fun _ => .inl rfl
  case dollar => exact fun _ => .inl rfl
  case other => exact fun _ _ _ => .inl rfl

end Lexeme

/-! ## §4 Trees -/

/-- Lexicons with the same units and the same presets are the same to the lexer.

The induction goes into the arguments of calls, by `lexFrom_induction`, since these are lexed with
the same lexicon. -/
theorem lexFrom_congr (units : ∀ unit, unit ∈ l.units ↔ unit ∈ l'.units)
    (presets : ∀ word, word ∈ l.presets ↔ word ∈ l'.presets) (position : Nat) (text : Text) :
    lexFrom l position text = lexFrom l' position text := by
  have unitKinds : l.unitKind = l'.unitKind :=
    funext fun unit => Lexicon.unitKind_congr (units unit)
  have wordKinds : l.wordKind = l'.wordKind :=
    funext fun word => Lexicon.wordKind_congr (presets word)
  -- Every lexeme is read alike, as a lexicon is only asked for these kinds.
  have same (c : CodePoint) (cs : Text) : Lexeme.read l c cs = Lexeme.read l' c cs := by
    simp only [Lexeme.read, Lexeme.number, Lexeme.unit, Lexeme.word, unitKinds, wordKinds]
  induction position, text using lexFrom_induction l with
  | nil position => rw [lexFrom_nil, lexFrom_nil]
  | call position c name arguments close rest parts step inside behind =>
    rw [step.lexFrom_eq, (lexStep_recast l' step).lexFrom_eq, parts.first_eq,
      (parts.recast l').first_eq, inside, behind]
  | plain position c tail rest plainLexeme step behind =>
    rw [step.lexFrom_eq, (lexStep_recast l' step).lexFrom_eq, behind, firstToken, firstToken,
      ← same, plainLexeme]

/-- A token without arguments is a leaf, and `sameKind_read` says how its kinds may differ. -/
theorem sameShape_firstToken (l l' : Lexicon) {position : Nat} {c : CodePoint} {cs : Text}
    (plain : (Lexeme.read l c cs).arguments = none) :
    SameShape l l' (firstToken l position c cs) (firstToken l' position c cs) := by
  obtain ⟨tail, arguments, -⟩ := Lexeme.recast_read l l' c cs
  rw [firstToken, firstToken, arguments, tail, plain]
  exact .leaf (Lexeme.sameKind_read l l' c cs)

/-- The trees of a text have the same shape wherever the text starts. A call keeps its kind, as it
is a `.function` under any lexicon. -/
theorem sameShape_lexFrom (l l' : Lexicon) (position : Nat) (text : Text) :
    List.Forall₂ (SameShape l l') (lexFrom l position text) (lexFrom l' position text) := by
  induction position, text using lexFrom_induction l with
  | nil position =>
    rw [lexFrom_nil, lexFrom_nil]
    exact .nil
  | call position c name arguments close rest parts step inside behind =>
    rw [step.lexFrom_eq, (lexStep_recast l' step).lexFrom_eq, parts.first_eq,
      (parts.recast l').first_eq]
    -- The children are the tokens of the arguments, for which there is a hypothesis.
    exact .cons (.branch inside) behind
  | plain position c tail rest plainLexeme step behind =>
    rw [step.lexFrom_eq, (lexStep_recast l' step).lexFrom_eq]
    exact .cons (sameShape_firstToken l l' plainLexeme) behind

/-- Under any two lexicons, the trees of a value have the same shape, the same places and the same
texts at every depth. Their kinds differ only at leaves that one of the lexicons knows: at numbers
whose unit is a name, and at words that are not called. The tokens that a lexicon permits change
nothing at all.

How kinds may differ is told by `Knows`, one constructor for each way. -/
theorem lex_sameShape (l l' : Lexicon) (text : Text) :
    List.Forall₂ (SameShape l l') (lex l text) (lex l' text) ∧
      ∀ permitted, lex { l with tokens := permitted } text = lex l text := by
  refine ⟨sameShape_lexFrom l l' 0 text, fun permitted => ?_⟩
  apply lexFrom_congr
  · exact fun unit => Iff.rfl
  · exact fun word => Iff.rfl

example :
    (lex { units := ["px".toText], presets := ["h1".toText] } "2px h1".toText).map Token.kind =
      [.customUnit, .whitespace, .preset] ∧
    (lex {} "2px h1".toText).map Token.kind = [.cssUnit, .whitespace, .identifier] := by
  decide +kernel

end StyleCheck.Value
