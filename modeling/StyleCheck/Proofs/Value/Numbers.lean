import StyleCheck.Proofs.Token.Names
import StyleCheck.Proofs.Value.Lexicon

/-!
# Numbers

A number is a literal with a unit, and the two are told apart more than once: the lexer takes the
literal, then the unit behind it, and asks the lexicon for the kind; the checks get the text of the
token and take the unit from it by leaving out the characters that a literal may have. Both find the
unit behind the longest literal that stands there, also in the arguments of a call, and whether the
number has a sign or a fraction or not.

## Main definitions

- `IsNumeral`, `IsLiteral`: how numbers are written without a unit.
- `literalAhead`, `unitAhead`: the literal at the front of a text, and the unit behind it.

## Main statements

- `isPrefix_literalAhead`: no longer literal stands at the front of a text.
- `splitsAs_of_mem_flatten`: every number of a value is a literal and its unit.
-/

namespace StyleCheck.Value

open Text
open Token (flatten)

/-! ## §1 Literals -/

/-- Digits, at least one. -/
def IsDigits (cs : Text) : Prop := cs ≠ [] ∧ ∀ c ∈ cs, isDigit c = true

/-- A number without a sign: digits, perhaps with a fraction, or a fraction alone. -/
inductive IsNumeral : Text → Prop
  | whole {digits : Text} : IsDigits digits → IsNumeral digits
  | fraction {whole digits : Text} : (∀ c ∈ whole, isDigit c = true) → IsDigits digits →
      IsNumeral (whole ++ CodePoint.char '.' :: digits)

/-- A number, perhaps with a sign. -/
inductive IsLiteral : Text → Prop
  | unsigned {numeral : Text} : IsNumeral numeral → IsLiteral numeral
  | signed {sign : CodePoint} {numeral : Text} :
      sign ∈ [CodePoint.char '+', CodePoint.char '-'] → IsNumeral numeral →
      IsLiteral (sign :: numeral)

/-- The longest literal at the front of a text. -/
structure LongestLiteral (l cs : Text) : Prop where
  isLiteral : IsLiteral l
  isPrefix : l <+: cs
  longest : ∀ l', IsLiteral l' → l' <+: cs → l' <+: l

/-- The literal at the front of a text; by `isLiteral_literalAhead` it is one wherever a number
starts. -/
def literalAhead : Text → Text
  | [] => []
  | c :: cs => if c == '+' || c == '-' then c :: unsignedNumeral cs else unsignedNumeral (c :: cs)

/-- The unit behind the literal at the front of a text: a whole name, which may be empty. In front
of it stands `literalAhead`. -/
def unitAhead (cs : Text) : Text := name (cs.drop (literalAhead cs).length)

/-- What `digits` takes are digits. -/
theorem isDigit_of_mem_digits {cs : Text} : ∀ c ∈ digits cs, isDigit c = true :=
  fun _ mem => List.mem_takeWhile_imp mem

/-- A point belongs to the numeral only with digits behind it, and `fraction` takes all of these. -/
theorem fraction_cases (cs : Text) :
    fraction cs = [] ∨ ∃ places, IsDigits places ∧ fraction cs = CodePoint.char '.' :: places := by
  unfold fraction
  split
  · split
    · next digit =>
      exact .inr ⟨_, ⟨startsWithDigit_eq_true_iff.mp digit, isDigit_of_mem_digits⟩, rfl⟩
    · exact .inl rfl
  · exact .inl rfl

/-- Where a numeral starts, `unsignedNumeral` takes one. -/
theorem isNumeral_unsignedNumeral {cs : Text} (starts : startsUnsigned cs = true) :
    IsNumeral (unsignedNumeral cs) := by
  have some := startsUnsigned_eq_true_iff.mp starts
  rw [unsignedNumeral] at some ⊢
  obtain none | ⟨places, digits, eq⟩ := fraction_cases (cs.drop (digits cs).length)
  · -- Without a fraction, there are digits, or nothing would start here.
    rw [none, List.append_nil] at some ⊢
    exact .whole ⟨some, isDigit_of_mem_digits⟩
  · rw [eq]
    exact .fraction isDigit_of_mem_digits digits

/-- A numeral has a character, and all of its characters are digits or points. -/
theorem IsNumeral.chars {numeral : Text} (h : IsNumeral numeral) :
    numeral ≠ [] ∧ ∀ c ∈ numeral, isDigit c = true ∨ c = CodePoint.char '.' := by
  cases h with
  | whole digits => exact ⟨digits.1, fun c mem => .inl (digits.2 c mem)⟩
  | fraction whole digits =>
    refine ⟨by simp, fun c mem => ?_⟩
    rcases List.mem_append.mp mem with front | behind
    · exact .inl (whole c front)
    · rcases List.mem_cons.mp behind with rfl | place
      · exact .inr rfl
      · exact .inl (digits.2 c place)

/-- No longer numeral stands at the front of a text than the one that `unsignedNumeral` takes. -/
theorem isPrefix_unsignedNumeral {numeral cs : Text} (h : IsNumeral numeral)
    (front : numeral <+: cs) : numeral <+: unsignedNumeral cs := by
  obtain ⟨rest, rfl⟩ := front
  cases h with
  | whole all =>
    rw [unsignedNumeral, digits, List.takeWhile_append_of_pos all.2, List.append_assoc]
    exact List.prefix_append _ _
  | @fraction whole places all digits =>
    -- The whole digits end at the point, behind which there are others.
    have point : isDigit (CodePoint.char '.') = false := by decide
    have starts : startsWithDigit (places ++ rest) = true := by
      obtain ⟨d, ds, rfl⟩ := List.exists_cons_of_ne_nil digits.1
      exact digits.2 d List.mem_cons_self
    have numeral : unsignedNumeral (whole ++ CodePoint.char '.' :: places ++ rest) =
        whole ++ CodePoint.char '.' :: Text.digits (places ++ rest) := by
      rw [unsignedNumeral, List.append_assoc, Text.digits, List.takeWhile_append_of_pos all,
        List.cons_append, List.takeWhile_cons_of_neg (by simp [point]), List.append_nil,
        List.drop_left, fraction, if_pos starts]
    -- The scan takes these places, and perhaps more digits behind them.
    rw [numeral, Text.digits, List.takeWhile_append_of_pos digits.2]
    exact ⟨rest.takeWhile isDigit, by simp⟩

/-- What starts with a numeral does so whatever follows. -/
theorem startsUnsigned_append {front : Text} (starts : startsUnsigned front = true) (back : Text) :
    startsUnsigned (front ++ back) = true := by
  have inFront := reads_unsignedNumeral.isPrefix front
  have longer := isPrefix_unsignedNumeral (isNumeral_unsignedNumeral starts)
    (inFront.trans (List.prefix_append front back))
  rw [startsUnsigned_eq_true_iff] at starts ⊢
  exact fun none => starts (List.prefix_nil.mp (none ▸ longer))

/-- The characters of numerals are no signs. -/
theorem not_sign {c : CodePoint} (h : isDigit c = true ∨ c = CodePoint.char '.') :
    (c == '+' || c == '-') = false := by
  by_contra sign
  rw [Bool.not_eq_false, Bool.or_eq_true, beq_iff_eq, beq_iff_eq] at sign
  rcases sign with rfl | rfl <;> revert h <;> decide

/-- No longer literal stands at the front of a text than the one that `literalAhead` takes. -/
theorem isPrefix_literalAhead {l cs : Text} (h : IsLiteral l) (front : l <+: cs) :
    l <+: literalAhead cs := by
  cases h with
  | unsigned numeral =>
    obtain ⟨some, chars⟩ := numeral.chars
    obtain ⟨c, rest, rfl⟩ := List.exists_cons_of_ne_nil some
    obtain ⟨others, rfl⟩ := front
    -- A numeral starts with no sign, so none is taken in front of it.
    rw [List.cons_append, literalAhead, not_sign (chars c List.mem_cons_self),
      if_neg Bool.false_ne_true]
    exact isPrefix_unsignedNumeral numeral (List.prefix_append _ _)
  | @signed sign _ isSign numeral =>
    obtain ⟨others, rfl⟩ := front
    -- The sign is taken in any case, and the numeral follows it.
    have signed : (sign == '+' || sign == '-') = true := by simpa using isSign
    rw [List.cons_append, literalAhead, signed, if_pos rfl, List.prefix_cons_inj]
    exact isPrefix_unsignedNumeral numeral (List.prefix_append _ _)

/-! ## §2 Lexemes -/

namespace Lexeme

variable {lexicon : Lexicon} {c : CodePoint} {cs : Text}

theorem StartsNumber.append (starts : StartsNumber c cs) (back : Text) :
    StartsNumber c (cs ++ back) :=
  starts.imp (startsUnsigned_append · back) (And.imp_right (startsUnsigned_append · back))

/-- The first character of a numeral is no sign, by `not_sign`, so it is taken along. -/
theorem unsignedNumeral_cons (starts : startsUnsigned (c :: cs) = true) :
    (c == '+' || c == '-') = false ∧
      unsignedNumeral (c :: cs) = c :: (unsignedNumeral (c :: cs)).drop 1 := by
  have chars := (isNumeral_unsignedNumeral starts).chars
  obtain ⟨d, front, numeral⟩ := List.exists_cons_of_ne_nil chars.1
  have taken := reads_unsignedNumeral.isPrefix (c :: cs)
  rw [id, numeral, List.cons_prefix_cons] at taken
  obtain ⟨rfl, -⟩ := taken
  rw [numeral] at chars ⊢
  exact ⟨not_sign (chars.2 d List.mem_cons_self), rfl⟩

/-- Where a number starts, the lexer takes the literal ahead: the first character and its
`numeralTail`. -/
theorem literalAhead_eq (starts : StartsNumber c cs) :
    literalAhead (c :: cs) = c :: numeralTail c cs := by
  rw [literalAhead, numeralTail]
  split
  · rfl
  · next noSign =>
    obtain unsigned | ⟨sign, -⟩ := starts
    · exact (unsignedNumeral_cons unsigned).2
    · rw [Bool.or_comm] at sign
      exact absurd sign noSign

/-- Where a number starts, what is taken is a literal. -/
theorem isLiteral_literalAhead (starts : StartsNumber c cs) :
    IsLiteral (literalAhead (c :: cs)) := by
  rw [literalAhead]
  obtain unsigned | ⟨sign, starts⟩ := starts
  · rw [(unsignedNumeral_cons unsigned).1, if_neg Bool.false_ne_true]
    exact .unsigned (isNumeral_unsignedNumeral unsigned)
  · -- The lexer asks for the signs in the other order.
    rw [Bool.or_comm] at sign
    rw [if_pos sign]
    exact .signed (by simpa using sign) (isNumeral_unsignedNumeral starts)

/-- It is the longest one, by `isPrefix_literalAhead`. -/
theorem longestLiteral_literalAhead (starts : StartsNumber c cs) :
    LongestLiteral (literalAhead (c :: cs)) (c :: cs) where
  isLiteral := isLiteral_literalAhead starts
  isPrefix := by
    rw [literalAhead_eq starts]
    exact (List.prefix_cons_inj c).mpr ((reads_numeralTail c).isPrefix cs)
  longest _ := isPrefix_literalAhead

theorem number_eq (lexicon : Lexicon) (c : CodePoint) (cs : Text) : number lexicon c cs =
    { kind := (unit lexicon (cs.drop (numeralTail c cs).length)).1
      tail := numeralTail c cs ++ (unit lexicon (cs.drop (numeralTail c cs).length)).2 } := rfl

end Lexeme

/-! ## §3 Tokens -/

/-- A token is what stands `ahead`, as a number: the literal, and behind it the unit, or a percent
sign in place of one. The unit decides the kind, and it is the one that the checks will find. -/
structure SplitsAs (lexicon : Lexicon) (ahead : Text) (t : Token) : Prop where
  literal : LongestLiteral (literalAhead ahead) ahead
  parts : t.kind = .cssUnit ∧ unitAhead ahead = [] ∧
      t.text = literalAhead ahead ++ [CodePoint.char '%'] ∨
    t.kind = lexicon.unitKind (unitAhead ahead) ∧ t.text = literalAhead ahead ++ unitAhead ahead ∧
      unitOf t.text = unitAhead ahead

variable {lexicon : Lexicon}

/-- What has a unit is no percentage. -/
theorem SplitsAs.of_unit {ahead : Text} {t : Token} (h : SplitsAs lexicon ahead t)
    (some : unitAhead ahead ≠ []) :
    t.kind = lexicon.unitKind (unitAhead ahead) ∧ unitOf t.text = unitAhead ahead := by
  obtain ⟨-, none, -⟩ | ⟨kind, -, sameUnit⟩ := h.parts
  · exact absurd none some
  · exact ⟨kind, sameUnit⟩

/-- A token that is a number, by kind and by text, `SplitsAs` its literal and its unit. -/
theorem splitsAs_number {c : CodePoint} {cs : Text} {t : Token}
    (starts : Lexeme.StartsNumber c cs) (kind : t.kind = (Lexeme.number lexicon c cs).kind)
    (text : t.text = c :: (Lexeme.number lexicon c cs).tail) : SplitsAs lexicon (c :: cs) t := by
  have sameUnit := unitOf_number (starts.imp_right And.left)
  refine ⟨Lexeme.longestLiteral_literalAhead starts, ?_⟩
  rw [unitAhead, Lexeme.literalAhead_eq starts, List.length_cons, List.drop_succ_cons, text, kind,
    Lexeme.number_eq]
  unfold Lexeme.unit
  split
  · -- A percent sign is no name, so there is no unit ahead.
    next behind percent =>
    refine .inl ⟨rfl, ?_, rfl⟩
    rw [percent]
    rfl
  · exact .inr ⟨rfl, rfl, sameUnit⟩

/-- A number of a value, at any depth, is the literal and the unit that lie ahead of it.

In a call, the lexer sees only the arguments, but what follows them is a parenthesis, by `EndsPart`,
and no number takes one. -/
theorem splitsAs_of_mem_flatten {text : Text} {t : Token} (ht : t ∈ flatten (lex lexicon text))
    (isNumber : t.kind ∈ numberKinds) : SplitsAs lexicon (text.drop t.start.toNat) t := by
  obtain ⟨place, c, cs, back, ahead, ends, rfl⟩ := exists_firstToken_ahead ht
  obtain ⟨starts, number⟩ := (Lexeme.read_eq_number_or lexicon c cs).resolve_right (· isNumber)
  -- The arguments of a call do not hide anything that a number would take.
  have same : Lexeme.number lexicon c cs = Lexeme.number lexicon c (cs ++ back) :=
    ends.read_eq (Lexeme.reads_number lexicon c) (Lexeme.foreign_number foreign_close lexicon c _)
  have stands : text.drop (firstToken lexicon place c cs).start.toNat = c :: (cs ++ back) := ahead
  rw [stands]
  refine splitsAs_number (starts.append back) ?_ ?_
  · rw [← same, ← number]
    rfl
  · rw [← same, ← number]
    rfl

end StyleCheck.Value
