import Mathlib.Data.List.Induction
import Mathlib.Data.Nat.Digits.Defs
import StyleCheck.Proofs.Check.Verdict
import StyleCheck.Proofs.Value.Colors
import StyleCheck.Proofs.Value.Numbers

/-!
# Opacities

A colour by name is cut three times. The lexer takes it off the front of the characters ahead: the
name, then the point, then the digits. The name that checks look up is what stands in front of the
first point of the token. Its opacity is the run of digits at the end, if a point stands in front of
them. The three agree about every colour, also where a custom property or nothing at all follows the
point, and the rule for opacities is about the digits that the lexer has taken.

## Main definitions

- `OpacityAhead`: the digits that the lexer takes behind the name of a colour and a point.
- `decimalValue`, `IsExcessive`: the number that digits stand for, and the ones above the limit.
- `ReadsColor`: what checks read off a colour, against what the lexer has read.

## Main statements

- `opacityDigits?_eq_some_iff`: the digits of an opacity by the end of the text.
- `readsColor_of_mem_flatten`: the name and the opacity of every colour of a value.
-/

namespace StyleCheck.Value

open Text
open Token (flatten)

/-! ## §1 Digits at the end of a text -/

/-- The digits of an opacity end the line, with a point in front.

`opacityDigits?` reads backwards from the end; the statement says it forwards. A final line break
does not count, so it is the line that ends with the digits and not always the text. -/
theorem opacityDigits?_eq_some_iff {text ds : Text} : opacityDigits? text = some ds ↔
    (ds ≠ [] ∧ ∀ c ∈ ds, isDecimalDigit c = true) ∧
      CodePoint.char '.' :: ds <:+ dropFinalNewline text := by
  simp only [opacityDigits?]
  generalize dropFinalNewline text = line
  constructor
  · intro suffix
    split at suffix
    · cases suffix
    · next some =>
      split at suffix
      · next point =>
        obtain ⟨front, point⟩ := List.head?_eq_some_iff.mp (beq_iff_eq.mp point)
        obtain rfl := Option.some.inj suffix
        refine ⟨⟨by simpa using some, fun c mem => ?_⟩, front.reverse, ?_⟩
        · exact List.mem_takeWhile_imp (List.mem_reverse.mp mem)
        · -- Backwards, the digits come first and then the point.
          have backwards : line.reverse.takeWhile isDecimalDigit ++ CodePoint.char '.' :: front =
              line.reverse := by
            rw [← point, List.takeWhile_append_dropWhile]
          have forwards := congrArg List.reverse backwards
          rwa [List.reverse_append, List.reverse_cons, List.append_assoc, List.reverse_reverse]
            at forwards
      · cases suffix
  · rintro ⟨⟨some, digits⟩, front, rfl⟩
    have point : isDecimalDigit (CodePoint.char '.') = false := by decide
    have backwards : (front ++ CodePoint.char '.' :: ds).reverse =
        ds.reverse ++ CodePoint.char '.' :: front.reverse := by
      simp
    -- The digits end where the point stands, for a point is none.
    have run : ∀ c ∈ ds.reverse, isDecimalDigit c = true := fun c mem =>
      digits c (List.mem_reverse.mp mem)
    rw [backwards, List.takeWhile_append_of_pos run, List.dropWhile_append_of_pos run,
      List.takeWhile_cons_of_neg (by simp [point]), List.dropWhile_cons_of_neg (by simp [point]),
      List.append_nil, List.reverse_reverse, if_neg (by simpa using some)]
    rfl

theorem dropFinalNewline_eq_self {text : Text} (noBreak : CodePoint.char '\n' ∉ text) :
    dropFinalNewline text = text := by
  rw [dropFinalNewline, if_neg]
  exact fun last => noBreak (List.mem_of_getLast? (beq_iff_eq.mp last))

/-! ## §2 Numbers -/

/-- The number that digits stand for, by `Nat.ofDigits`. -/
def decimalValue (ds : Text) : Nat := Nat.ofDigits 10 (ds.reverse.map fun c => c.toNat - 0x30)

theorem digitValue?_of_isDigit {c : CodePoint} (digit : isDigit c = true) :
    digitValue? c = some (c.toNat - 0x30) := by
  rw [digitValue?, zeroDigits, List.find?_cons_of_pos]
  · rfl
  · simpa using isDigit_iff.mp digit

/-- Digits are read as the number that they stand for: `numeralValue` adds them up from the front,
and `decimalValue` is `Nat.ofDigits` from the back. -/
theorem numeralValue_eq {ds : Text} (digits : ∀ c ∈ ds, isDigit c = true) :
    numeralValue ds = decimalValue ds := by
  -- Both take in a digit at the end: the fold as its last step, the digits as the lowest of them.
  induction ds using List.reverseRecOn with
  | nil => rfl
  | append_singleton ds c ih =>
    rw [List.forall_mem_append, List.forall_mem_singleton] at digits
    have front := ih digits.1
    rw [numeralValue, decimalValue] at front ⊢
    rw [List.foldl_append, List.foldl_cons, List.foldl_nil, front,
      digitValue?_of_isDigit digits.2, List.reverse_append, List.reverse_singleton,
      List.singleton_append, List.map_cons, Nat.ofDigits_cons]
    exact Nat.add_comm _ _

/-- Opacities above one hundred per cent. A single digit counts tens, so it is never one: `.9` is
ninety per cent. -/
def IsExcessive (ds : Text) : Prop := 2 ≤ ds.length ∧ 100 < decimalValue ds

instance (ds : Text) : Decidable (IsExcessive ds) := inferInstanceAs (Decidable (_ ∧ _))

/-- Digits that are few enough to be read come to a percentage, and it is within one hundred just
where they are not `IsExcessive`. -/
theorem opacityPercent_le_iff {ds : Text} (digits : IsDigits ds) (few : ds.length ≤ digitLimit) :
    ∃ percent, opacityPercent ds = .ok percent ∧ (percent ≤ 100 ↔ ¬IsExcessive ds) := by
  rw [opacityPercent, if_neg (Nat.not_lt.mpr few), numeralValue_eq digits.2]
  split
  · next single =>
    refine ⟨_, rfl, iff_of_true ?_ fun excessive => absurd excessive.1 (by omega)⟩
    -- A single digit stands for tens of percent, and nine of them are not too many.
    obtain ⟨c, rfl⟩ := List.length_eq_one_iff.mp single
    have digit := isDigit_iff.mp (digits.2 c List.mem_cons_self)
    simp only [decimalValue, List.reverse_singleton, List.map_cons, List.map_nil,
      Nat.ofDigits_singleton]
    omega
  · next several =>
    have some := List.length_pos_iff.mpr digits.1
    refine ⟨_, rfl, ?_⟩
    rw [IsExcessive, not_and, Nat.not_lt]
    exact ⟨fun low _ => low, fun low => low (by omega)⟩

/-! ## §3 Colours -/

/-- The digits that the lexer takes behind the name of a colour and a point: all that stand there,
at least one. -/
def OpacityAhead (behind ds : Text) : Prop :=
  ds ≠ [] ∧ ∃ rest, behind.drop (dashedName behind).length = CodePoint.char '.' :: rest ∧
    ds = digits rest

theorem OpacityAhead.isDigits {behind ds : Text} (h : OpacityAhead behind ds) : IsDigits ds := by
  obtain ⟨some, rest, -, rfl⟩ := h
  exact ⟨some, isDigit_of_mem_digits⟩

/-- Digits ahead are all that is taken behind the name. -/
theorem OpacityAhead.suffix_eq {behind ds suffix : Text} (h : OpacityAhead behind ds)
    (form : OpacityForm (behind.drop (dashedName behind).length) suffix) :
    suffix = CodePoint.char '.' :: ds := by
  obtain ⟨some, rest, ahead, rfl⟩ := h
  rw [ahead] at form
  cases form with
  | none other => exact absurd rfl other
  | property => exact absurd rfl some
  | digits => rfl

theorem OpacityForm.eq_nil_or_point {cs suffix : Text} (h : OpacityForm cs suffix) :
    suffix = [] ∨ ∃ rest, suffix = CodePoint.char '.' :: rest := by
  cases h with
  | none => exact .inl rfl
  | property | digits => exact .inr ⟨_, rfl⟩

/-- A line has the digits of an opacity behind its only point. That there is no other point is what
makes the digits unique. -/
theorem isSuffix_point_iff {front back ds : Text} (noneInFront : CodePoint.char '.' ∉ front)
    (noneBehind : CodePoint.char '.' ∉ back) :
    CodePoint.char '.' :: ds <:+ front ++ CodePoint.char '.' :: back ↔ ds = back := by
  constructor
  · rintro ⟨start, same⟩
    exact ((List.append_cons_inj_of_notMem noneInFront noneBehind).mp same.symm).2.2.symm
  · rintro rfl
    exact List.suffix_append _ _

variable {lexicon : Lexicon} {text : Text} {t : Token}

theorem foreign_open : Foreign (.char '(') := ⟨by decide, by decide, by decide, by decide⟩

/-- A point is not a part of names, so the first point of a colour is the one behind its name. -/
theorem point_notMem_dashedName (cs : Text) :
    CodePoint.char '.' ∉ CodePoint.char '#' :: dashedName cs := by
  rw [List.mem_cons, not_or]
  exact ⟨by decide, notMem_takeWhile (by decide) cs⟩

/-- What the digits at the end of a colour are: those which the lexer takes as its opacity.

The check looks at the end of the token and the lexer at what follows the name, and the two meet at
the only point that a colour can have (`point_notMem_dashedName`). -/
theorem opacityDigits?_colorToken {behind suffix ds : Text}
    (form : OpacityForm (behind.drop (dashedName behind).length) suffix)
    (noBreak : CodePoint.char '\n' ∉ CodePoint.char '#' :: (dashedName behind ++ suffix)) :
    opacityDigits? (CodePoint.char '#' :: (dashedName behind ++ suffix)) = some ds ↔
      OpacityAhead behind ds := by
  have noPoint := point_notMem_dashedName behind
  rw [opacityDigits?_eq_some_iff, dropFinalNewline_eq_self noBreak, ← List.cons_append,
    OpacityAhead]
  generalize behind.drop (dashedName behind).length = cs at form
  -- What the lexer may have taken behind the name: nothing, a custom property, or digits.
  cases form with
  | none other =>
    rw [List.append_nil]
    refine iff_of_false (fun h => noPoint (h.2.subset List.mem_cons_self)) ?_
    rintro ⟨-, rest, rfl, -⟩
    exact other rfl
  | property cs =>
    -- Behind the point stands a sigil in place of digits.
    have noneBehind : CodePoint.char '.' ∉ CodePoint.char '$' :: dashedName cs := by
      rw [List.mem_cons, not_or]
      exact ⟨by decide, notMem_takeWhile (by decide) cs⟩
    rw [isSuffix_point_iff noPoint noneBehind]
    refine iff_of_false ?_ ?_
    · rintro ⟨⟨-, digits⟩, rfl⟩
      exact absurd (digits _ List.mem_cons_self) (by decide)
    · rintro ⟨some, rest, same, rfl⟩
      obtain rfl := List.tail_eq_of_cons_eq same
      exact some rfl
  | @digits cs other =>
    have noneBehind : CodePoint.char '.' ∉ digits cs := notMem_takeWhile (by decide) cs
    rw [isSuffix_point_iff noPoint noneBehind]
    constructor
    · rintro ⟨⟨some, -⟩, rfl⟩
      exact ⟨some, cs, rfl, rfl⟩
    · rintro ⟨some, rest, same, rfl⟩
      obtain rfl := List.tail_eq_of_cons_eq same
      exact ⟨⟨some, fun c mem => isDecimalDigit_of_isDigit (isDigit_of_mem_digits c mem)⟩, rfl⟩

/-- The name of a colour is what stands in front of its suffix. `Token.name` cuts at a bracket
first, which no colour has, and then at the point. -/
theorem name_colorToken {name suffix : Text} (color : t.kind = .colorToken)
    (text : t.text = CodePoint.char '#' :: (name ++ suffix)) (notCall : CodePoint.char '(' ∉ t.text)
    (noPoint : CodePoint.char '.' ∉ CodePoint.char '#' :: name)
    (ends : suffix = [] ∨ ∃ rest, suffix = CodePoint.char '.' :: rest) :
    t.name = CodePoint.char '#' :: name := by
  have self {stop : CodePoint} {cs : Text} (absent : stop ∉ cs) : upTo stop cs = cs := by
    rw [upTo, List.takeWhile_eq_self_iff]
    intro c mem
    rw [bne_iff_ne]
    rintro rfl
    exact absent mem
  rw [Token.name, self notCall, if_pos (beq_iff_eq.mpr color), text]
  obtain rfl | ⟨rest, rfl⟩ := ends
  · rw [List.append_nil, self noPoint]
  · exact upTo_append noPoint rest

/-- The characters that a colour of a value is made from: the sign, a name as far as `dashedName`
goes, and one of the forms of `OpacityForm`. -/
theorem exists_colorToken_ahead (ht : t ∈ flatten (lex lexicon text))
    (color : t.kind = .colorToken) :
    ∃ behind suffix, text.drop t.start.toNat = CodePoint.char '#' :: behind ∧
      t.text = CodePoint.char '#' :: (dashedName behind ++ suffix) ∧
      OpacityForm (behind.drop (dashedName behind).length) suffix ∧
      CodePoint.char '(' ∉ t.text := by
  have sign : t.text.head? = some (CodePoint.char '#') := by
    obtain ⟨place, c, cs, -, rfl⟩ := exists_firstToken_of_mem_flatten (StandsAt.self text) ht
    have sigil : sigilOf? (Lexeme.read lexicon c cs).kind = some (CodePoint.char '#') :=
      congrArg sigilOf? color
    exact congrArg some (Lexeme.eq_sigil_of_read sigil)
  obtain ⟨behind, ahead, -, kind, made⟩ := exists_hash_ahead ht sign
  have form := Lexeme.hashForm_hash behind
  rw [← kind, ← made, color] at form
  obtain ⟨suffix, split, takes⟩ := form.exists_suffix
  refine ⟨behind, suffix, ahead, split, takes, ?_⟩
  rw [made, List.mem_cons, not_or]
  exact ⟨by decide, Lexeme.foreign_hash foreign_open behind⟩

/-! ## §4 The rule -/

variable {context : Context}

/-- A colour without the digits of an opacity is in order, whatever else `t.text` holds. -/
theorem opacityRule_of_none (none : opacityDigits? t.text = none) :
    opacityRule.check context t = .ok [] := by
  simp only [opacityRule, none, ite_self]

/-- A colour with digits that can be read is reported just where they are `IsExcessive`. -/
theorem opacityRule_of_some {ds : Text} (color : t.kind = .colorToken)
    (suffix : opacityDigits? t.text = some ds) (digits : IsDigits ds)
    (few : ds.length ≤ digitLimit) :
    opacityRule.check context t =
      if IsExcessive ds then context.find t (.invalidOpacity ds) none else .ok [] := by
  obtain ⟨percent, read, low⟩ := opacityPercent_le_iff digits few
  simp only [opacityRule, color, suffix, read, bne_self_eq_false, Bool.false_eq_true, if_false]
  show (if percent ≤ 100 then _ else _) = _
  rw [if_congr low rfl rfl, ite_not]

theorem find_eq_ok (inOrder : InOrder t.start t.stop) (positive : 0 ≤ context.base) :
    ∃ span : Span, (span.start : Int) = context.base + t.start ∧
      (span.stop : Int) = context.base + t.stop ∧
      ∀ issue suggestion, context.find t issue suggestion = .ok [{ issue, span, suggestion }] := by
  obtain ⟨span, placed⟩ := Token.exists_hostSpan inOrder positive
  obtain ⟨start, stop⟩ := (Token.hostSpan_eq_ok_iff inOrder).mp placed
  refine ⟨span, start, stop, fun issue suggestion => ?_⟩
  rw [Context.find, placed]
  rfl

/-- What checks read off a colour, against the characters behind its sign. -/
structure ReadsColor (context : Context) (behind : Text) (t : Token) : Prop where
  /-- The name goes as far as the lexer has read it. -/
  name : t.name = CodePoint.char '#' :: dashedName behind
  /-- The lexer has taken digits as an opacity where the name, a point and these are the token. -/
  taken_iff : ∀ ds, OpacityAhead behind ds ↔
    IsDigits ds ∧ t.text = t.name ++ CodePoint.char '.' :: ds
  /-- The rule sees the digits that the lexer has taken. -/
  seen_iff : ∀ ds, opacityDigits? t.text = some ds ↔ OpacityAhead behind ds
  /-- Without any, the colour is in order. -/
  silent : (∀ ds, ¬OpacityAhead behind ds) → opacityRule.check context t = .ok []
  /-- Unless they are too many, their number decides. -/
  judged : ∀ ds, OpacityAhead behind ds → ds.length ≤ digitLimit →
    opacityRule.check context t =
      if IsExcessive ds then context.find t (.invalidOpacity ds) none else .ok []
  /-- What is found is one finding that covers the token. -/
  placed : 0 ≤ context.base → ∃ span : Span, (span.start : Int) = context.base + t.start ∧
    (span.stop : Int) = context.base + t.stop ∧
    ∀ issue suggestion, context.find t issue suggestion = .ok [{ issue, span, suggestion }]

/-- The name and the opacity of every colour by name in a value, at any depth, are what the lexer
has read: the name behind the sign, and the digits behind a point.

Unless there are too many to be read as a number, the rule reports them once if there are two or
more and their number is above one hundred, and it reports nothing otherwise. -/
theorem readsColor_of_mem_flatten (context : Context) (text : Text) :
    ∀ t ∈ flatten (lex (Lexicon.ofSettings context.settings) text), t.kind = .colorToken →
      ∃ behind, text.drop t.start.toNat = CodePoint.char '#' :: behind ∧
        ReadsColor context behind t := by
  intro t ht color
  obtain ⟨behind, suffix, ahead, split, form, notCall⟩ := exists_colorToken_ahead ht color
  have noBreak := newline_notMem_of_colorToken ht color
  have name := name_colorToken color split notCall (point_notMem_dashedName behind)
    form.eq_nil_or_point
  have seen (ds : Text) : opacityDigits? t.text = some ds ↔ OpacityAhead behind ds := by
    rw [split] at noBreak ⊢
    exact opacityDigits?_colorToken form noBreak
  refine ⟨behind, ahead, name, fun ds => ⟨?_, ?_⟩, seen, ?_, ?_,
    find_eq_ok (inOrder_of_mem_flatten ht)⟩
  · intro taken
    refine ⟨taken.isDigits, ?_⟩
    rw [name, split, taken.suffix_eq form, List.cons_append]
  · -- Given the parts of the token, the digits are at its end, so the rule sees them and the lexer
    -- has taken them.
    rintro ⟨digits, parts⟩
    have decimal : ∀ c ∈ ds, isDecimalDigit c = true := fun c mem =>
      isDecimalDigit_of_isDigit (digits.2 c mem)
    refine (seen ds).mp (opacityDigits?_eq_some_iff.mpr ⟨⟨digits.1, decimal⟩, ?_⟩)
    rw [dropFinalNewline_eq_self noBreak, parts]
    exact List.suffix_append _ _
  · intro none
    refine opacityRule_of_none (Option.eq_none_iff_forall_not_mem.mpr fun ds suffix => ?_)
    exact none ds ((seen ds).mp suffix)
  · intro ds taken few
    exact opacityRule_of_some color ((seen ds).mpr taken) taken.isDigits few

/-- Zeros in front count as digits but not for the number, and the parenthesis is not seen. -/
theorem readsColor_argument : ∃ context : Context, ∃ t ∈
    flatten (lex (Lexicon.ofSettings context.settings) "f(#dark.0101) #a.$b".toText),
    t.kind = .colorToken ∧ t.name = "#dark".toText ∧ ∃ span : Span, span.start = 5 ∧
      opacityRule.check context t =
        .ok [{ issue := .invalidOpacity "0101".toText, span, suggestion := none }] := by
  obtain ⟨context, base, t, ht, color, start⟩ : ∃ context : Context, context.base = 3 ∧
      ∃ t ∈ flatten (lex (Lexicon.ofSettings context.settings) "f(#dark.0101) #a.$b".toText),
        t.kind = .colorToken ∧ t.start = 2 :=
    ⟨{ base := 3, property := [], settings := {}, definitions := {} }, rfl, by decide +kernel⟩
  obtain ⟨behind, ahead, reads⟩ := readsColor_of_mem_flatten context _ t ht color
  rw [start] at ahead
  obtain rfl : "dark.0101) #a.$b".toText = behind := List.tail_eq_of_cons_eq ahead
  have taken : OpacityAhead "dark.0101) #a.$b".toText "0101".toText := ⟨by decide, _, rfl, rfl⟩
  obtain ⟨span, first, -, found⟩ := reads.placed (by omega)
  refine ⟨context, t, ht, color, reads.name, span, by omega, ?_⟩
  rw [reads.judged _ taken (by decide), if_pos (by decide), found]

end StyleCheck.Value
