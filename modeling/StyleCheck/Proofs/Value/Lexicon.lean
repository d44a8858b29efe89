import Mathlib.Data.List.Forall2
import StyleCheck.Check.Value
import StyleCheck.Proofs.Value.Tokens

/-!
# What the lexicon decides

A lexicon is asked about the units of numbers and about words that are not called, and it answers
with a kind. Where the tokens of a value begin and end, how they hang below one another and what
their other kinds are is settled by the characters alone. So two lexicons cut a value into the same
tree of tokens, and its tokens correspond to one another with kinds that may differ for units and
for words.

## Main definitions

- `Reclassified`: the kinds that two lexicons give to a token.
- `Recast`: the same token in the eyes of another lexicon.

## Main statements

- `unitOf_number`: the unit that the checks find in a number is the one that the lexer has read.
- `recast_lex`: the tokens of a value under two lexicons, at any depth.
-/

namespace StyleCheck.Value

open Text

/-! ## §1 The unit of a number -/

theorem isDecimalDigit_iff {c : CodePoint} :
    isDecimalDigit c = true ↔ ∃ first ∈ zeroDigits, first ≤ c.toNat ∧ c.toNat < first + 10 := by
  simp [isDecimalDigit, digitValue?, List.find?_isSome]

theorem isDigit_iff {c : CodePoint} : isDigit c = true ↔ 0x30 ≤ c.toNat ∧ c.toNat < 0x3A := by
  simp only [isDigit, Bool.and_eq_true, decide_eq_true_eq, CodePoint.le_iff_toNat_le,
    CodePoint.toNat, Char.reduceToNat]
  omega

theorem isDecimalDigit_of_isDigit {c : CodePoint} (digit : isDigit c = true) :
    isDecimalDigit c = true :=
  isDecimalDigit_iff.mpr ⟨0x30, List.mem_cons_self, isDigit_iff.mp digit⟩

/-- No digit of any script can start a name. The checks leave out all digits of a number and the
lexer takes those of ASCII, so this is what keeps their units the same (`dropWhile_numeral`). -/
theorem isDecimalDigit_of_isNameStart {c : CodePoint} (start : isNameStart c = true) :
    isDecimalDigit c = false := by
  have zeros : ∀ first ∈ zeroDigits, first = 0x30 ∨ 0x660 ≤ first := by decide
  by_contra digit
  obtain ⟨first, mem, low, high⟩ := isDecimalDigit_iff.mp (Bool.not_eq_false _ ▸ digit)
  have known := zeros first mem
  simp only [isNameStart, isLetter, isSmall, isCapital, Bool.or_eq_true, Bool.and_eq_true,
    decide_eq_true_eq, beq_iff_eq, CodePoint.le_iff_toNat_le, CodePoint.toNat,
    Char.reduceToNat] at start low high
  -- The zeros of other scripts come behind all characters that start a name.
  obtain letter | rfl := start
  · omega
  · simp at low high
    omega

/-- A numeral holds digits and points only. -/
theorem unsignedNumeral_chars (cs : Text) :
    ∀ c ∈ unsignedNumeral cs, isDigit c = true ∨ c = CodePoint.char '.' := by
  intro c mem
  obtain whole | behind := List.mem_append.mp mem
  · exact .inl (List.mem_takeWhile_imp whole)
  · -- A fraction is a point and digits, or it is nothing.
    unfold fraction at behind
    split at behind
    · split at behind
      · obtain rfl | later := List.mem_cons.mp behind
        · exact .inr rfl
        · exact .inl (List.mem_takeWhile_imp later)
      · cases behind
    · cases behind

/-- A numeral is read as far as its digits go: `unsignedNumeral` leaves no digit in front. -/
theorem head_drop_unsignedNumeral (cs : Text) :
    (cs.drop (unsignedNumeral cs).length).head?.all (!isDigit ·) = true := by
  have whole := head_drop_takeWhile isDigit cs
  rw [← digits] at whole
  rw [unsignedNumeral, List.length_append, ← List.drop_drop]
  -- Either there is a fraction, which goes on with its own digits, or nothing more is taken.
  generalize cs.drop (digits cs).length = rest at whole
  unfold fraction
  split
  · split
    · exact head_drop_takeWhile isDigit _
    · exact whole
  · exact whole

/-- Behind a numeral, the characters of a name are a whole name. -/
theorem head_name_behind (cs : Text) :
    (name (cs.drop (unsignedNumeral cs).length)).head?.all isNameStart = true := by
  have ends := head_drop_unsignedNumeral cs
  cases behind : cs.drop (unsignedNumeral cs).length with
  | nil => rfl
  | cons c rest =>
    rw [behind] at ends
    by_cases named : isNameChar c = true
    · simp_all [name, isNameChar]
    · simp [name, named]

/-- Leaving out the digits and points of a number in front of its unit leaves the unit. -/
theorem dropWhile_numeral {numeral unit : Text}
    (run : ∀ c ∈ numeral, isDigit c = true ∨ c = CodePoint.char '.')
    (starts : unit.head?.all isNameStart = true) :
    (numeral ++ unit).dropWhile (fun c => c == CodePoint.char '.' || isDecimalDigit c) = unit := by
  rw [List.dropWhile_append_of_pos]
  · cases unit with
    | nil => rfl
    | cons c rest =>
      -- The first character of a unit is neither a point nor a digit, so the dropping ends there.
      refine List.dropWhile_cons_of_neg ?_
      have start : isNameStart c = true := starts
      have noPoint : c ≠ CodePoint.char '.' := by
        rintro rfl
        revert start
        decide
      simp [noPoint, isDecimalDigit_of_isNameStart start]
  · intro c mem
    obtain digit | rfl := run c mem
    · simp [isDecimalDigit_of_isDigit digit]
    · simp

/-- What the lexer reads as the unit of a number is what the checks take for its unit.

The checks have only the text of the token. They leave out a sign, then all digits and points;
`dropWhile_numeral` says that the unit is left. -/
theorem unitOf_number {c : CodePoint} {cs : Text}
    (starts : startsUnsigned (c :: cs) = true ∨ (c == '-' || c == '+') = true) :
    unitOf (c :: (Lexeme.numeralTail c cs ++ name (cs.drop (Lexeme.numeralTail c cs).length))) =
      name (cs.drop (Lexeme.numeralTail c cs).length) := by
  by_cases sign : (c == '-' || c == '+') = true
  · rw [Lexeme.numeralTail_of_sign sign]
    have unsigned := dropWhile_numeral (unsignedNumeral_chars cs) (head_name_behind cs)
    simp only [Bool.or_eq_true, beq_iff_eq] at sign
    obtain rfl | rfl := sign
    · exact unsigned
    · exact unsigned
  · -- Without a sign, the first character belongs to the numeral.
    have starts := starts.resolve_right sign
    obtain ⟨d, front, numeral⟩ := List.exists_cons_of_ne_nil (startsUnsigned_eq_true_iff.mp starts)
    have whole := reads_unsignedNumeral.append_drop (c :: cs)
    rw [id, numeral, List.cons_append, List.cons.injEq] at whole
    obtain ⟨rfl, whole⟩ := whole
    have tail : Lexeme.numeralTail d cs = front := by
      rw [Bool.or_comm] at sign
      rw [Lexeme.numeralTail, if_neg sign, numeral, List.drop_one, List.tail_cons]
    -- The numeral is its first character and what the lexer takes behind it.
    have run := unsignedNumeral_chars (d :: cs)
    rw [numeral] at run
    have behind := head_name_behind (d :: cs)
    rw [numeral, List.length_cons, List.drop_succ_cons] at behind
    have unsigned := dropWhile_numeral run behind
    rw [tail]
    unfold unitOf
    split
    · next same => simp_all
    · next same => simp_all
    · exact unsigned

/-! ## §2 Kinds -/

/-- The kinds that two lexicons give to a token of some `text`. A lexicon is asked about units and
about words; all other kinds are told by the form of the token. -/
inductive Reclassified (l l' : Lexicon) (text : Text) : TokenKind → TokenKind → Prop
  /-- A token whose kind is told by its form. -/
  | form (kind : TokenKind) : Reclassified l l' text kind kind
  /-- A number. -/
  | unit : Reclassified l l' text (l.unitKind (unitOf text)) (l'.unitKind (unitOf text))
  /-- A word that is not called. -/
  | word : CodePoint.char '(' ∉ text →
      Reclassified l l' text (l.wordKind text) (l'.wordKind text)

variable {l l' : Lexicon} {text : Text} {k k' : TokenKind}

theorem Reclassified.symm (h : Reclassified l l' text k k') : Reclassified l' l text k' k := by
  cases h with
  | form => exact .form k
  | unit => exact .unit
  | word notCall => exact .word notCall

namespace Lexicon

theorem unitKind_ne {kind : TokenKind} (other : kind ∉ numberKinds) (l : Lexicon) (unit : Text) :
    l.unitKind unit ≠ kind := by
  rintro rfl
  exact other (l.unitKind_mem unit)

theorem unitKind_congr {unit : Text} (same : unit ∈ l.units ↔ unit ∈ l'.units) :
    l.unitKind unit = l'.unitKind unit := by
  simp only [unitKind, List.contains_eq_mem, same]

/-- A unit counts as one of the project if the lexicon lists it, and also if nobody knows it. The
`builtInUnits` are those of every project. -/
theorem unitKind_eq_customUnit_iff {unit : Text} : l.unitKind unit = .customUnit ↔
    unit ≠ [] ∧ (unit ∈ Vocabulary.builtInUnits ∨ unit ∈ l.units ∨
      unit ∉ Vocabulary.cssUnits) := by
  unfold unitKind
  split_ifs with nothing project css
  · simp_all
  · have listed : unit ∈ Vocabulary.builtInUnits ∨ unit ∈ l.units := by simpa using project
    refine iff_of_true rfl ⟨by simpa using nothing, ?_⟩
    rwa [← or_assoc, or_iff_left_of_imp fun _ => listed]
  · simp_all
  · simp_all

theorem wordKind_ne {kind : TokenKind} (other : kind ∉ wordKinds) (l : Lexicon) (word : Text) :
    l.wordKind word ≠ kind := by
  rintro rfl
  exact other (l.wordKind_mem word)

theorem wordKind_congr {word : Text} (same : word ∈ l.presets ↔ word ∈ l'.presets) :
    l.wordKind word = l'.wordKind word := by
  simp only [wordKind, List.contains_eq_mem, same]

/-- A bare word is a function by the vocabulary alone. -/
theorem mem_cssFunctions_of_wordKind {word : Text} (function : l.wordKind word = .function) :
    word ∈ Vocabulary.cssFunctions := by
  unfold wordKind at function
  split_ifs at function with truth modifier direction preset known
  exact List.contains_iff_mem.mp known

/-- With fewer presets, an identifier stays one. -/
theorem wordKind_eq_identifier_of_subset {word : Text} (fewer : l.presets ⊆ l'.presets)
    (identifier : l'.wordKind word = .identifier) : l.wordKind word = .identifier := by
  unfold wordKind at identifier ⊢
  split_ifs at identifier with truth modifier direction preset function
  have notPreset : l.presets.contains word = false := by
    simp only [List.contains_eq_mem, decide_eq_true_eq, decide_eq_false_iff_not] at preset ⊢
    exact fun mem => preset (fewer mem)
  simp only [truth, modifier, direction, notPreset, function, Bool.false_eq_true, if_false]

end Lexicon

/-- No lexicon has a say in what is a colour: both see a `.colorToken`, or neither does. -/
theorem Reclassified.colorToken_iff (h : Reclassified l l' text k k') :
    k = .colorToken ↔ k' = .colorToken := by
  cases h with
  | form => exact Iff.rfl
  | unit =>
    have other (l : Lexicon) : l.unitKind (unitOf text) ≠ .colorToken :=
      l.unitKind_ne (by decide) (unitOf text)
    exact iff_of_false (other l) (other l')
  | word =>
    have other (l : Lexicon) : l.wordKind text ≠ .colorToken := l.wordKind_ne (by decide) text
    exact iff_of_false (other l) (other l')

/-- A call is one under every lexicon. -/
theorem Reclassified.eq_function_of_call (h : Reclassified l l' text k k') (call : k = .function)
    (opens : CodePoint.char '(' ∈ text) : k' = .function := by
  cases h with
  | form => exact call
  | unit => exact absurd call (l.unitKind_ne (by decide) (unitOf text))
  | word notCall => exact absurd opens notCall

/-! ## §3 Tokens -/

namespace Lexeme

/-- The same lexeme in the eyes of another lexicon: it takes the same characters, has the same
arguments, and its kind is `Reclassified`. -/
structure Recast (l l' : Lexicon) (c : CodePoint) (x x' : Lexeme) : Prop where
  tail : x'.tail = x.tail
  arguments : x'.arguments = x.arguments
  kind : Reclassified l l' (c :: x.tail) x.kind x'.kind

variable {c : CodePoint} {cs : Text}

theorem Recast.refl (l l' : Lexicon) (c : CodePoint) (x : Lexeme) : Recast l l' c x x :=
  ⟨rfl, rfl, .form x.kind⟩

/-- A number is the same lexeme to two lexicons. Its kind is decided by its unit, which is `unitOf`
its text. -/
theorem recast_number (l l' : Lexicon)
    (starts : startsUnsigned (c :: cs) = true ∨ (c == '-' || c == '+') = true) :
    Recast l l' c (number l c cs) (number l' c cs) := by
  have unitOf_tail := unitOf_number starts
  have eq (l : Lexicon) : number l c cs =
      { kind := (unit l (cs.drop (numeralTail c cs).length)).1
        tail := numeralTail c cs ++ (unit l (cs.drop (numeralTail c cs).length)).2 } := rfl
  rw [eq, eq]
  unfold unit
  split
  · exact ⟨rfl, rfl, .form _⟩
  · refine ⟨rfl, rfl, ?_⟩
    -- The kind is that of the unit, which the checks find in the text.
    have kind (text : Text) : Reclassified l l' text (l.unitKind (unitOf text))
        (l'.unitKind (unitOf text)) := .unit
    have here := kind (c :: (numeralTail c cs ++ name (cs.drop (numeralTail c cs).length)))
    rwa [unitOf_tail] at here

theorem recast_word (l l' : Lexicon) (start : isNameStart c = true) :
    Recast l l' c (word l c cs) (word l' c cs) := by
  rw [word_eq, word_eq]
  unfold wordBehind
  split
  · exact .refl l l' c _
  · refine ⟨rfl, rfl, ?_⟩
    rw [prepend, List.append_nil]
    exact .word (not_open_mem_word start cs)

theorem recast_read (l l' : Lexicon) (c : CodePoint) (cs : Text) :
    Recast l l' c (read l c cs) (read l' c cs) := by
  refine read_cases (motive := fun f => Recast l l' c (f l) (f l')) c cs ?number ?word ?hash
    ?dollar ?other
  case number => exact fun starts => recast_number l l' (starts.imp_right And.left)
  case word => exact recast_word l l'
  case hash => exact fun _ => .refl l l' c _
  case dollar => exact fun _ => .refl l l' c _
  case other => exact fun x _ _ => .refl l l' c x

end Lexeme

/-- The same token in the eyes of another lexicon, its kind being `Reclassified`. Its children are
not spoken of, since this is about the tokens of a flattened tree. -/
structure Recast (l l' : Lexicon) (t t' : Token) : Prop where
  text : t'.text = t.text
  start : t'.start = t.start
  stop : t'.stop = t.stop
  kind : Reclassified l l' t.text t.kind t'.kind

theorem Recast.symm {t t' : Token} (h : Recast l l' t t') : Recast l' l t' t where
  text := h.text.symm
  start := h.start.symm
  stop := h.stop.symm
  kind := h.text ▸ h.kind.symm

theorem recast_firstToken (l l' : Lexicon) (position : Nat) (c : CodePoint) (cs : Text) :
    Recast l l' (firstToken l position c cs) (firstToken l' position c cs) := by
  obtain ⟨tail, -, kind⟩ := Lexeme.recast_read l l' c cs
  refine ⟨?_, rfl, ?_, kind⟩
  · rw [firstToken, firstToken, tail]
  · rw [firstToken, firstToken, tail]

/-- One round of the lexer takes the same characters under every lexicon. -/
theorem lexStep_recast {position : Nat} {c : CodePoint} {tail rest : Text} (l' : Lexicon)
    (step : LexStep (lexFrom l) (firstToken l) position c tail rest) :
    LexStep (lexFrom l') (firstToken l') position c tail rest := by
  have taken := (takesTail l).lexStep_iff.mp step
  apply (takesTail l').lexStep_iff.mpr
  rw [(Lexeme.recast_read l l' c _).tail, taken]

theorem Lexeme.CallParts.recast {c : CodePoint} {name arguments close rest : Text}
    (parts : CallParts l c name arguments close rest) (l' : Lexicon) :
    CallParts l' c name arguments close rest := by
  refine ⟨parts.noneBefore, parts.closedBy, ?_⟩
  obtain ⟨tail, arguments, kind⟩ := recast_read l l' c
    (name ++ CodePoint.char '(' :: (arguments ++ close) ++ rest)
  rw [parts.read_eq] at tail arguments kind
  rw [Lexeme.mk.injEq]
  exact ⟨kind.eq_function_of_call rfl (by simp), tail, arguments⟩

/-- Two lexicons see the same tokens in a text at any depth, up to their kinds.

The tokens correspond in the order of a walk, `Token.flatten`. -/
theorem recast_lexFrom (l l' : Lexicon) (position : Nat) (text : Text) :
    List.Forall₂ (Recast l l') (Token.flatten (lexFrom l position text))
      (Token.flatten (lexFrom l' position text)) := by
  induction position, text using lexFrom_induction l with
  | nil position =>
    rw [lexFrom_nil, lexFrom_nil]
    exact .nil
  | call position c name arguments close rest parts step inside behind =>
    rw [step.lexFrom_eq, (lexStep_recast l' step).lexFrom_eq, Token.flatten_cons,
      Token.flatten_cons]
    refine .cons (recast_firstToken l l' position c _) (List.rel_append ?_ behind)
    -- Below the call stand the tokens of its arguments, for which there is a hypothesis.
    rw [parts.first_eq, (parts.recast l').first_eq]
    exact inside
  | plain position c tail rest plainLexeme step behind =>
    -- Without arguments for one lexicon, there are none for the other.
    have plainLexeme' : (Lexeme.read l' c (tail ++ rest)).arguments = none := by
      rw [(Lexeme.recast_read l l' c _).arguments, plainLexeme]
    rw [step.lexFrom_eq, (lexStep_recast l' step).lexFrom_eq, Token.flatten_cons,
      Token.flatten_cons, children_of_plain plainLexeme, children_of_plain plainLexeme']
    exact .cons (recast_firstToken l l' position c _) behind

/-- Two lexicons see the same tokens in a value, up to the kinds of units and of words. By
`lexStep_recast` this goes on round by round. -/
theorem recast_lex (l l' : Lexicon) (text : Text) :
    List.Forall₂ (Recast l l') (Token.flatten (lex l text)) (Token.flatten (lex l' text)) :=
  recast_lexFrom l l' 0 text

end StyleCheck.Value
