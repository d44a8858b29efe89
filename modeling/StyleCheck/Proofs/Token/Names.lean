import StyleCheck.Proofs.StateKey.Tokens
import StyleCheck.Proofs.Value.Tokens

/-!
# Names in tokens

The names that checks read off tokens are made of the characters of identifiers, with sigils, digits
and points in front or behind. None of them holds a quote; a quote stands in strings, in the
arguments of calls and on its own. It is the same with line breaks, and with all that is foreign to
names.

## Main definitions

- `Foreign`: a character that stands in no name.
- `StandsApart`: a character that starts no name either.

## Main statements

- `Value.foreign_of_mem_flatten`, `Value.quoteless_of_mem_flatten`: the tokens of a value.
- `StateKey.quoteless_of_stateAlias`: the aliases of a state key.
-/

namespace StyleCheck

open Text

/-- The single quote. -/
def quote : CodePoint := .char '\''

/-! ## §1 Scanners -/

/-- A character that stands in no name or number, in front of none and behind none. The `quote` is
one, and so is the opening parenthesis. -/
structure Foreign (d : CodePoint) : Prop where
  dashed : isDashedNameChar d = false
  name : isNameChar d = false
  digit : isDigit d = false
  sigil : d ∉ "#$.%".toText

/-- The quote, the line break and the closing parenthesis are `Foreign` to names. -/
theorem foreign_quote : Foreign quote := ⟨by decide, by decide, by decide, by decide⟩

theorem foreign_newline : Foreign (.char '\n') := ⟨by decide, by decide, by decide, by decide⟩

theorem foreign_close : Foreign (.char ')') := ⟨by decide, by decide, by decide, by decide⟩

/-- The character is blank or starts a string. -/
def StandsApart (d : CodePoint) : Prop :=
  isBlank d = true ∨ d = CodePoint.char '"' ∨ d = CodePoint.char '\''

theorem notMem_takeWhile {d : CodePoint} {p : CodePoint → Bool} (other : p d = false) (cs : Text) :
    d ∉ cs.takeWhile p := by
  intro taken
  have kept : p d = true := List.mem_takeWhile_imp taken
  rw [other] at kept
  cases kept

/-- What stands in front of a character, stands in front of its first occurrence. -/
theorem mem_of_mem_upTo {stop c : CodePoint} {front behind : Text}
    (h : c ∈ upTo stop (front ++ stop :: behind)) : c ∈ front := by
  induction front with
  | nil => simp [upTo] at h
  | cons d front ih =>
    rw [upTo, List.cons_append, List.takeWhile_cons] at h
    split at h
    · rcases List.mem_cons.mp h with rfl | later
      · exact List.mem_cons_self
      · exact List.mem_cons_of_mem d (ih later)
    · cases h

namespace Foreign

variable {d : CodePoint}

theorem ne_of_mem (h : Foreign d) {c : CodePoint} (sigil : c ∈ "#$.%".toText) : d ≠ c := by
  rintro rfl
  exact h.sigil sigil

/-- A sigil in front changes nothing. -/
theorem notMem_cons (h : Foreign d) {c : CodePoint} {cs : Text} (sigil : c ∈ "#$.%".toText)
    (behind : d ∉ cs) : d ∉ c :: cs := by
  rw [List.mem_cons, not_or]
  exact ⟨h.ne_of_mem sigil, behind⟩

/-- What is made of names, digits and sigils holds no foreign character: `dashedName`, `digits`,
`name` and `unsignedNumeral` are such. -/
theorem notMem_dashedName (h : Foreign d) (cs : Text) : d ∉ dashedName cs :=
  notMem_takeWhile h.dashed cs

theorem notMem_digits (h : Foreign d) (cs : Text) : d ∉ digits cs := notMem_takeWhile h.digit cs

theorem notMem_name (h : Foreign d) (cs : Text) : d ∉ Text.name cs := notMem_takeWhile h.name cs

theorem notMem_unsignedNumeral (h : Foreign d) (cs : Text) : d ∉ unsignedNumeral cs := by
  rw [unsignedNumeral, List.mem_append, not_or]
  refine ⟨h.notMem_digits cs, ?_⟩
  unfold fraction
  split
  · split
    · exact h.notMem_cons (by decide) (h.notMem_digits _)
    · exact List.not_mem_nil
  · exact List.not_mem_nil

end Foreign

/-! ## §2 Values -/

namespace Value

/-- Kinds of tokens that no name is read off. -/
def namelessKinds : List TokenKind :=
  [.whitespace, .hexColor, .string, .operator, .punctuation, .unknown]

namespace Lexeme

variable {d : CodePoint}

/-- The lexemes of a value hold no foreign character behind their first one, unless they are named
in `namelessKinds` or are calls.

This is said for each of them, from the opacity of a colour to a word. -/
theorem foreign_opacitySuffix (h : Foreign d) (cs : Text) : d ∉ opacitySuffix cs := by
  unfold opacitySuffix
  split
  · exact h.notMem_cons (by decide) (h.notMem_cons (by decide) (h.notMem_dashedName _))
  · exact h.notMem_cons (by decide) (h.notMem_digits _)
  · exact List.not_mem_nil

theorem foreign_hash (h : Foreign d) (cs : Text) : d ∉ (hash cs).tail := by
  by_cases doubled : cs.head? = some (CodePoint.char '#')
  · obtain ⟨rest, rfl⟩ := List.head?_eq_some_iff.mp doubled
    exact h.notMem_cons (by decide) (h.notMem_dashedName rest)
  · rw [hash_eq doubled]
    split
    · exact h.notMem_dashedName cs
    · rw [List.mem_append, not_or]
      exact ⟨h.notMem_dashedName cs, foreign_opacitySuffix h _⟩

theorem foreign_dollar (h : Foreign d) (cs : Text) : d ∉ (dollar cs).tail := by
  unfold dollar
  split
  · exact h.notMem_cons (by decide) (h.notMem_dashedName _)
  · exact h.notMem_dashedName _

/-- A number is a numeral and its unit, neither of which holds a `Foreign` character. -/
theorem foreign_number (h : Foreign d) (lexicon : Lexicon) (c : CodePoint) (cs : Text) :
    d ∉ (number lexicon c cs).tail := by
  have inNumeral : d ∉ numeralTail c cs := by
    unfold numeralTail
    split
    · exact h.notMem_unsignedNumeral cs
    · -- Here the numeral starts with the first character.
      exact fun there => h.notMem_unsignedNumeral (c :: cs) (List.mem_of_mem_drop there)
  have inUnit : d ∉ (unit lexicon (cs.drop (numeralTail c cs).length)).2 := by
    unfold unit
    split
    · exact h.notMem_cons (by decide) List.not_mem_nil
    · exact h.notMem_name _
  show d ∉ numeralTail c cs ++ (unit lexicon (cs.drop (numeralTail c cs).length)).2
  rw [List.mem_append, not_or]
  exact ⟨inNumeral, inUnit⟩

/-- The name of a word is what stands in front of its arguments.

A word without arguments is its name; one with arguments is a call, of which `upTo` leaves the name.
-/
theorem foreign_word (h : Foreign d) (lexicon : Lexicon) {c : CodePoint} (other : c ≠ d)
    (cs : Text) :
    d ∉ c :: (word lexicon c cs).tail ∨ (word lexicon c cs).kind = .function ∧
      d ∉ upTo '(' (c :: (word lexicon c cs).tail) := by
  have inName : d ∉ c :: dashedName cs := by
    rw [List.mem_cons, not_or]
    exact ⟨Ne.symm other, h.notMem_dashedName cs⟩
  rw [word_eq]
  unfold wordBehind
  split
  · -- What stands in front of the parenthesis is the name.
    refine .inr ⟨rfl, fun there => inName ?_⟩
    rw [prepend, callBehind, ← List.cons_append] at there
    exact mem_of_mem_upTo there
  · refine .inl ?_
    rw [prepend, List.append_nil]
    exact inName

/-- A lexeme does not hold the character, or no name is read off it, or it is a call whose name does
not hold it.

The cases are those of `read`. Only the first character of a lexeme might still be the foreign one,
which `StandsApart` excludes where a name is read. -/
theorem foreign_read (h : Foreign d) (apart : StandsApart d) (lexicon : Lexicon) (c : CodePoint)
    (cs : Text) :
    d ∉ c :: (read lexicon c cs).tail ∨ (read lexicon c cs).kind ∈ namelessKinds ∨
      (read lexicon c cs).kind = .function ∧
        d ∉ upTo '(' (c :: (read lexicon c cs).tail) := by
  have cons {tail : Text} (other : c ≠ d) (inTail : d ∉ tail) : d ∉ c :: tail := by
    rw [List.mem_cons, not_or]
    exact ⟨Ne.symm other, inTail⟩
  unfold read
  split_ifs with blank pound money quoted unsigned signed operator punctuation start
  · exact .inr (.inl (by simp [namelessKinds]))
  · rw [beq_iff_eq] at pound
    exact .inl (h.notMem_cons (pound ▸ by decide) (foreign_hash h cs))
  · rw [beq_iff_eq] at money
    exact .inl (h.notMem_cons (money ▸ by decide) (foreign_dollar h cs))
  · exact .inr (.inl (by simp [namelessKinds]))
  all_goals
    -- The character would have been a blank, or have started a string.
    have other : c ≠ d := by
      rintro rfl
      rcases apart with isBlank | rfl | rfl
      · exact blank isBlank
      · exact quoted rfl
      · exact quoted rfl
  · exact .inl (cons other (foreign_number h lexicon c cs))
  · exact .inl (cons other (foreign_number h lexicon c cs))
  · exact .inr (.inl (by simp [namelessKinds]))
  · exact .inr (.inl (by simp [namelessKinds]))
  · rcases foreign_word h lexicon other cs with all | call
    · exact .inl all
    · exact .inr (.inr call)
  · exact .inr (.inl (by simp [namelessKinds]))

end Lexeme

theorem foreign_of_mem_flatten {d : CodePoint} (h : Foreign d) (apart : StandsApart d)
    {lexicon : Lexicon} {text : Text} {t : Token} (ht : t ∈ Token.flatten (lex lexicon text)) :
    d ∉ t.text ∨ t.kind ∈ namelessKinds ∨ t.kind = .function ∧ d ∉ upTo '(' t.text := by
  obtain ⟨place, c, cs, -, rfl⟩ := exists_firstToken_of_mem_flatten (StandsAt.self text) ht
  exact Lexeme.foreign_read h apart lexicon c cs

/-- What checks read names off holds no quote: the text of a token, unless its kind is one of
`namelessKinds`, or the name of a call. -/
theorem quoteless_of_mem_flatten {lexicon : Lexicon} {text : Text} {t : Token}
    (ht : t ∈ Token.flatten (lex lexicon text)) :
    quote ∉ t.text ∨ t.kind ∈ namelessKinds ∨
      t.kind = .function ∧ quote ∉ upTo '(' t.text :=
  foreign_of_mem_flatten foreign_quote (.inr (.inr rfl)) ht

/-- A colour ends with its name or with its opacity, not with a line break. -/
theorem newline_notMem_of_colorToken {lexicon : Lexicon} {text : Text} {t : Token}
    (ht : t ∈ Token.flatten (lex lexicon text)) (kind : t.kind = .colorToken) :
    CodePoint.char '\n' ∉ t.text := by
  rcases foreign_of_mem_flatten foreign_newline (.inl (by decide)) ht with notIn | nameless | call
  · exact notIn
  · simp [kind, namelessKinds] at nameless
  · simp [kind] at call

end Value

/-! ## §3 State keys -/

namespace StateKey

namespace Lexeme

/-- An alias is the sign with a name behind it.

Behind the sign, `advanced` finds a predicate, a configured name, a part of the tree or a name that
nobody knows. Only the names are aliases. -/
theorem tail_of_advanced {aliases : List Text} {position : Nat} {cs : Text}
    (isAlias : (advanced aliases position cs).kind = .stateAlias) :
    (advanced aliases position cs).tail = dashedName cs := by
  revert isAlias
  unfold advanced
  split
  · exact TokenKind.noConfusion
  · dsimp only
    by_cases configured : aliases.contains (CodePoint.char '@' :: dashedName cs) = true
    · rw [if_pos configured]
      exact fun _ => rfl
    · rw [if_neg configured]
      split
      · -- The parts of the tree have kinds of their own.
        next known _ => exact fun isAlias => absurd isAlias (kind_ne_of_atState? known rfl)
      · next known _ => exact fun isAlias => absurd isAlias (kind_ne_of_atState? known rfl)
      · split_ifs <;> exact fun _ => rfl

/-- Only what starts with the sign is a `.stateAlias`, and it takes the name behind the sign. -/
theorem alias_parts {aliases : List Text} {position : Nat} {c : CodePoint} {cs : Text}
    (isAlias : (read aliases position c cs).kind = .stateAlias) :
    c = CodePoint.char '@' ∧ (read aliases position c cs).tail = dashedName cs := by
  unfold read at isAlias ⊢
  split_ifs at isAlias ⊢ with blank operator punctuation colon point bracket sign start
  · rw [pseudo_kind] at isAlias
    cases isAlias
  · exact ⟨beq_iff_eq.mp sign, tail_of_advanced isAlias⟩
  · have isAlias : (modifier true cs).1 = .stateAlias := isAlias
    rcases modifier_kind true cs with kind | kind <;> simp [kind] at isAlias

end Lexeme

/-- The text of an alias is the sign with a name behind it. -/
theorem text_of_stateAlias {aliases : List Text} {key : Text} {t : Token}
    (ht : t ∈ lex aliases key) (isAlias : t.kind = .stateAlias) :
    ∃ cs, t.text = CodePoint.char '@' :: dashedName cs := by
  obtain ⟨position, c, cs, -, rfl⟩ := exists_firstToken_of_mem_lex ht (by simp [isAlias])
  obtain ⟨sign, tail⟩ := Lexeme.alias_parts isAlias
  exact ⟨cs, by rw [firstToken, tail, sign]⟩

theorem quoteless_of_stateAlias {aliases : List Text} {key : Text} {t : Token}
    (ht : t ∈ lex aliases key) (isAlias : t.kind = .stateAlias) : quote ∉ t.text := by
  obtain ⟨cs, text⟩ := text_of_stateAlias ht isAlias
  rw [text, List.mem_cons, not_or]
  exact ⟨by decide, foreign_quote.notMem_dashedName cs⟩

end StateKey

end StyleCheck
