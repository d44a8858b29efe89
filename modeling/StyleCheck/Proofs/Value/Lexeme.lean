import Mathlib.Data.List.TakeWhile
import StyleCheck.Proofs.Text.Parentheses
import StyleCheck.Proofs.Text.Reads
import StyleCheck.Value.Lexer

/-!
# The first lexeme of a value

Each lexeme takes characters off the front of what follows its first one, and a cut behind them
leaves it as it is, although every kind of lexeme looks ahead in its own way: two characters for a
sign, the whole name for a colour by digits, all of the rest for an open call.

## Main definitions

- `numberKinds`, `wordKinds`: the kinds that a lexicon may give.

## Main statements

- `reads_read`: the first lexeme is read off the front.
- `read_cases`: how the first lexeme depends on the lexicon.
- `read_call_or_plain`: what a lexeme with arguments consists of, and that others are no calls.
-/

namespace StyleCheck.Value

open Text

/-- The kinds of numbers. -/
def numberKinds : List TokenKind := [.number, .customUnit, .cssUnit]

/-- The kinds of words. -/
def wordKinds : List TokenKind :=
  [.boolean, .presetModifier, .direction, .preset, .function, .identifier]

/-- The character that a token of the kind starts with, for the kinds with a sigil. Tokens with a
doubled sign, such as `$$name`, are of other kinds. -/
def sigilOf? : TokenKind → Option CodePoint
  | .colorToken => some '#'
  | .customProperty => some '$'
  | _ => none

namespace Lexicon

/-- A lexicon gives numbers one of `numberKinds`, and words one of `wordKinds`. -/
theorem unitKind_mem (l : Lexicon) (unit : Text) : l.unitKind unit ∈ numberKinds := by
  unfold unitKind
  split_ifs <;> simp [numberKinds]

theorem wordKind_mem (l : Lexicon) (word : Text) : l.wordKind word ∈ wordKinds := by
  unfold wordKind
  split_ifs <;> simp [wordKinds]

end Lexicon

namespace Lexeme

/-! ## §1 Names of colours -/

/-- A name that gives a colour by its digits. -/
def isHexName (name : Text) : Bool := hexLengths.contains name.length && name.all isHexDigit

theorem isDashedNameChar_of_isHexDigit {c : CodePoint} (h : isHexDigit c = true) :
    isDashedNameChar c = true := by
  simp only [isHexDigit, isDashedNameChar, isNameChar, isNameStart, isLetter, isSmall, isCapital,
    isDigit, Bool.or_eq_true, Bool.and_eq_true, decide_eq_true_eq, CodePoint.le_iff_toNat_le,
    CodePoint.toNat, Char.reduceToNat] at h ⊢
  omega

/-- Hexadecimal digits behind which no identifier goes on are a whole name.

So the `n` characters that `startsWithHex` looks at are those that `dashedName` takes. -/
theorem startsWithHex_eq (cs : Text) (n : Nat) :
    startsWithHex cs n = ((dashedName cs).length == n && (dashedName cs).all isHexDigit) := by
  rw [Bool.eq_iff_iff]
  simp only [startsWithHex, Bool.and_eq_true, beq_iff_eq]
  constructor
  · -- Digits are characters of a name, and no name goes on behind them.
    rintro ⟨⟨long, hex⟩, ends⟩
    have name : dashedName cs = cs.take n := by
      have dashed : ∀ c ∈ cs.take n, isDashedNameChar c = true := fun c hc =>
        isDashedNameChar_of_isHexDigit (List.all_eq_true.mp hex c hc)
      rw [dashedName, ← List.take_append_drop n cs, List.takeWhile_append_of_pos dashed,
        List.take_append_drop]
      cases rest : cs.drop n with
      | nil => simp
      | cons d ds =>
        rw [rest] at ends
        simp_all
    rw [name]
    exact ⟨long, hex⟩
  · rintro ⟨long, hex⟩
    have name : cs.take n = dashedName cs := by
      rw [← long]
      exact (List.prefix_iff_eq_take.mp (reads_dashedName.isPrefix cs)).symm
    rw [name]
    refine ⟨⟨long, hex⟩, ?_⟩
    -- A name is read as far as it goes.
    have ends := head_drop_takeWhile isDashedNameChar cs
    rwa [← dashedName, long] at ends

/-- The digits of a colour are looked for by their number, but it is always a whole name that is
found.

Of the numbers in `hexLengths`, only the length of the name can be the right one, so their order
does not matter. -/
theorem find_startsWithHex (cs : Text) :
    hexLengths.find? (startsWithHex cs) =
      if isHexName (dashedName cs) then some (dashedName cs).length else none := by
  have same : startsWithHex cs = fun n =>
      (dashedName cs).length == n && (dashedName cs).all isHexDigit :=
    funext (startsWithHex_eq cs)
  rw [same, isHexName]
  -- The search is for a length, but only the length of the whole name can be found.
  by_cases hex : (dashedName cs).all isHexDigit = true
  · simp only [hex, Bool.and_true, List.contains_eq_mem, decide_eq_true_eq]
    split_ifs with known
    · simp only [hexLengths, List.mem_cons, List.not_mem_nil, or_false] at known
      rcases known with long | long | long | long <;> simp [long, hexLengths]
    · rw [List.find?_eq_none]
      intro n hn same
      rw [beq_iff_eq] at same
      exact known (same ▸ hn)
  · simp [hex]

/-- A colour reads a whole name, whether by digits or not; only one that is not by digits may have
an opacity suffix.

This is the form of `hash` that the other lemmas use. -/
theorem hash_eq {cs : Text} (other : cs.head? ≠ some (CodePoint.char '#')) :
    hash cs = if isHexName (dashedName cs) then { kind := .hexColor, tail := dashedName cs }
      else { kind := .colorToken
             tail := dashedName cs ++ opacitySuffix (cs.drop (dashedName cs).length) } := by
  unfold hash
  split
  · next rest => exact absurd rfl other
  · rw [find_startsWithHex]
    by_cases known : isHexName (dashedName cs) = true
    · have name : cs.take (dashedName cs).length = dashedName cs :=
        (List.prefix_iff_eq_take.mp (reads_dashedName.isPrefix cs)).symm
      simp only [if_pos known, name]
    · simp only [if_neg known]

/-! ## §2 Reading lexemes -/

/-- What follows the point of an opacity suffix. -/
def behindPoint : Text → Text
  | '$' :: cs => '$' :: dashedName cs
  | cs => digits cs

/-- An opacity suffix is a point and what `behindPoint` takes. -/
theorem opacitySuffix_point (cs : Text) :
    opacitySuffix (CodePoint.char '.' :: cs) = CodePoint.char '.' :: behindPoint cs := by
  cases cs with
  | nil => rfl
  | cons c cs => by_cases h : c = CodePoint.char '$' <;> simp [opacitySuffix, behindPoint, h]

theorem reads_behindPoint : Reads id behindPoint := by
  have behind := reads_dashedName.cons (CodePoint.char '$')
  refine .onHead (CodePoint.char '$') (fun _ => rfl) ?_ (fun _ => rfl) behind reads_digits
  intro cs other
  unfold behindPoint
  split
  · exact absurd rfl other
  · rfl

/-- An opacity suffix is read off the front of a text: a point, and then what `behindPoint` takes.
-/
theorem reads_opacitySuffix : Reads id opacitySuffix := by
  have behind := reads_behindPoint.cons (CodePoint.char '.')
  have nothing : Reads id fun _ => [] := .const rfl
  refine .onHead (CodePoint.char '.') opacitySuffix_point ?_ (fun _ => rfl) behind nothing
  intro cs other
  unfold opacitySuffix
  split
  · exact absurd rfl other
  · exact absurd rfl other
  · rfl

/-- The lexeme with more characters in `front`. -/
def prepend (front : Text) (l : Lexeme) : Lexeme := { l with tail := front ++ l.tail }

/-- What makes the rest of a colour behind its `name`. -/
def colorBehind (name cs : Text) : Lexeme :=
  if isHexName name then { kind := .hexColor, tail := [] }
  else { kind := .colorToken, tail := opacitySuffix cs }

/-- What starts with `#` is read: a second sign and a name, or a name and what `colorBehind` makes
of it. -/
theorem reads_hash : Reads Lexeme.tail hash := by
  have doubled : Reads (fun l : Lexeme => l.tail.tail) fun cs =>
      { kind := .colorTokenName, tail := CodePoint.char '#' :: dashedName cs } :=
    reads_dashedName.map (fun name =>
      ({ kind := .colorTokenName, tail := CodePoint.char '#' :: name } : Lexeme)) fun _ => rfl
  -- Once the name is known, it is decided whether a suffix is read.
  have behindName : ∀ name, Reads Lexeme.tail (colorBehind name) := fun name =>
    .iteConst _ (.const rfl)
      (reads_opacitySuffix.map (fun t => ({ kind := .colorToken, tail := t } : Lexeme))
        fun _ => rfl)
  have named : Reads Lexeme.tail fun cs =>
      prepend (dashedName cs) (colorBehind (dashedName cs) (cs.drop (dashedName cs).length)) :=
    reads_dashedName.andThen behindName prepend fun _ _ => rfl
  refine .onHead (CodePoint.char '#') (fun _ => rfl) ?_ (fun _ => rfl) doubled named
  intro cs other
  rw [hash_eq other, prepend, colorBehind]
  split <;> simp

/-- What starts with `$` is read: a name, perhaps behind a second sign. -/
theorem reads_dollar : Reads Lexeme.tail dollar := by
  have doubled : Reads (fun l : Lexeme => l.tail.tail) fun cs =>
      { kind := .customPropertyName, tail := CodePoint.char '$' :: dashedName cs } :=
    reads_dashedName.map (fun name =>
      ({ kind := .customPropertyName, tail := CodePoint.char '$' :: name } : Lexeme)) fun _ => rfl
  have single : Reads Lexeme.tail fun cs => { kind := .customProperty, tail := dashedName cs } :=
    reads_dashedName.map (fun name => ({ kind := .customProperty, tail := name } : Lexeme))
      fun _ => rfl
  refine .onHead (CodePoint.char '$') (fun _ => rfl) ?_ (fun _ => rfl) doubled single
  -- Without a second sign, the name alone is read.
  intro cs other
  unfold dollar
  split
  · exact absurd rfl other
  · rfl

/-- The unit of a number is read: a percent sign, or a name, which may be empty. -/
theorem reads_unit (lexicon : Lexicon) : Reads Prod.snd (unit lexicon) := by
  have percent : Reads (fun p : TokenKind × Text => p.2.tail) fun _ =>
      (TokenKind.cssUnit, [CodePoint.char '%']) := .const rfl
  have named : Reads Prod.snd fun cs => (lexicon.unitKind (name cs), name cs) :=
    reads_name.map (fun n => (lexicon.unitKind n, n)) fun _ => rfl
  refine .onHead (CodePoint.char '%') (fun _ => rfl) ?_ (fun _ => rfl) percent named
  intro cs other
  unfold unit
  split
  · exact absurd rfl other
  · rfl

/-- What a numeral takes behind the first character `c` of a number, which is a sign or belongs to
the numeral. -/
def numeralTail (c : CodePoint) (cs : Text) : Text :=
  if c == '+' || c == '-' then unsignedNumeral cs else (unsignedNumeral (c :: cs)).drop 1

theorem reads_numeralTail (c : CodePoint) : Reads id (numeralTail c) :=
  .iteConst _ reads_unsignedNumeral (reads_unsignedNumeral.behindFirst c)

theorem reads_number (lexicon : Lexicon) (c : CodePoint) :
    Reads Lexeme.tail (number lexicon c) :=
  (reads_numeralTail c).andThen (fun _ => reads_unit lexicon)
    (fun numeral behind => ({ kind := behind.1, tail := numeral ++ behind.2 } : Lexeme))
    fun _ _ => rfl

/-- The argument list of a call behind its opening parenthesis, whose place in the lexeme is given,
with the closing parenthesis. -/
def callBehind (place : Nat) (cs : Text) : Lexeme where
  kind := .function
  tail := CodePoint.char '(' :: (untilClosed 1 cs ++ (cs.drop (untilClosed 1 cs).length).take 1)
  arguments := some (place, (untilClosed 1 cs).length)

theorem reads_callBehind (place : Nat) :
    Reads (fun l : Lexeme => l.tail.tail) (callBehind place) :=
  (reads_untilClosed 1).andThen (fun _ => reads_takeOne)
    (fun arguments close =>
      ({ kind := .function, tail := CodePoint.char '(' :: (arguments ++ close)
         arguments := some (place, arguments.length) } : Lexeme))
    fun _ _ => rfl

/-- What makes the rest of a word behind its `name`: a call, or nothing. -/
def wordBehind (lexicon : Lexicon) (c : CodePoint) (name : Text) : Text → Lexeme
  | '(' :: cs => callBehind (name.length + 1) cs
  | _ => { kind := lexicon.wordKind (c :: name), tail := [] }

/-- A word is its name and what `wordBehind` makes of what follows. -/
theorem word_eq (lexicon : Lexicon) (c : CodePoint) (cs : Text) :
    word lexicon c cs = prepend (dashedName cs)
      (wordBehind lexicon c (dashedName cs) (cs.drop (dashedName cs).length)) := by
  unfold word wordBehind
  split <;> simp_all [prepend, callBehind]

/-- A word is read, and its arguments with it if it is called. Both follow from what `wordBehind`
reads behind the name. -/
theorem reads_word (lexicon : Lexicon) (c : CodePoint) : Reads Lexeme.tail (word lexicon c) := by
  -- Behind its name a word is read on only if a parenthesis follows.
  have behindName : ∀ name, Reads Lexeme.tail (wordBehind lexicon c name) := by
    intro name
    have bare : Reads Lexeme.tail fun _ =>
        { kind := lexicon.wordKind (c :: name), tail := [] } := .const rfl
    refine .onHead (CodePoint.char '(') (fun _ => rfl) ?_ (fun _ => rfl)
      (reads_callBehind (name.length + 1)) bare
    intro cs other
    unfold wordBehind
    split
    · exact absurd rfl other
    · rfl
  rw [funext (word_eq lexicon c)]
  exact reads_dashedName.andThen behindName prepend fun _ _ => rfl

/-! ## §3 The first lexeme -/

/-- Behind the first character of an unsigned number stands all the rest of its numeral.

This is what `Reads.ifUnsigned` asks of a number. -/
theorem length_unsignedNumeral_cons_le {c : CodePoint} {cs : Text}
    (starts : startsUnsigned (c :: cs) = true) :
    (unsignedNumeral (c :: cs)).length ≤ (numeralTail c cs).length + 1 := by
  have unsigned : (c == '+' || c == '-') = false := by
    by_contra sign
    rw [Bool.not_eq_false, Bool.or_eq_true, beq_iff_eq, beq_iff_eq] at sign
    rcases sign with rfl | rfl <;> revert starts <;> simp [startsUnsigned, startsWithDigit] <;>
      decide
  rw [numeralTail, unsigned, if_neg Bool.false_ne_true, List.length_drop]
  omega

theorem numeralTail_of_sign {c : CodePoint} (sign : (c == '-' || c == '+') = true) (cs : Text) :
    numeralTail c cs = unsignedNumeral cs := by
  rw [Bool.or_comm] at sign
  rw [numeralTail, if_pos sign]

theorem length_numeralTail_le (lexicon : Lexicon) (c : CodePoint) (cs : Text) :
    (numeralTail c cs).length ≤ (number lexicon c cs).tail.length := by
  show _ ≤ (numeralTail c cs ++ (unit lexicon (cs.drop (numeralTail c cs).length)).2).length
  rw [List.length_append]
  omega

/-- The first lexeme of a text is read off the front, whichever it is.

Each way of reading it is a reader, and they are put together in the order in which `read` tries
them. -/
theorem reads_read (lexicon : Lexicon) (c : CodePoint) : Reads Lexeme.tail (read lexicon c) := by
  have single (kind : TokenKind) : Reads Lexeme.tail fun _ => { kind, tail := [] } := .const rfl
  have blank : Reads Lexeme.tail fun cs => { kind := .whitespace, tail := cs.takeWhile isBlank } :=
    (reads_takeWhile isBlank).map (fun t => ({ kind := .whitespace, tail := t } : Lexeme))
      fun _ => rfl
  have quoted : Reads Lexeme.tail fun cs => { kind := .string, tail := quotedTail c cs } :=
    (reads_quotedTail c).map (fun t => ({ kind := .string, tail := t } : Lexeme)) fun _ => rfl
  unfold read
  refine .iteConst _ blank (.iteConst _ reads_hash (.iteConst _ reads_dollar
    (.iteConst _ quoted (.ifUnsigned c (reads_number lexicon c) (.ite (reads_number lexicon c)
      (.iteConst _ (single _) (.iteConst _ (single _) (.iteConst _ (reads_word lexicon c)
        (single _)))) ?signed) ?unsigned))))
  -- The two conditions that look ahead ask for a numeral, and a number takes its numeral.
  case signed =>
    intro cs n enough
    cases sign : (c == '-' || c == '+') with
    | false => rfl
    | true =>
      rw [Bool.true_and, Bool.true_and]
      refine startsUnsigned_take ?_
      -- If a numeral follows the sign, a cut behind the number keeps it; else no cut makes one.
      by_cases starts : startsUnsigned cs = true
      · rw [sign, starts, Bool.and_true, if_pos rfl] at enough
        rw [← numeralTail_of_sign sign]
        exact Nat.le_trans (length_numeralTail_le lexicon c cs) enough
      · rw [startsUnsigned_eq_true_iff, not_not] at starts
        simp [starts]
  case unsigned =>
    intro cs starts
    have long := length_unsignedNumeral_cons_le starts
    have whole := length_numeralTail_le lexicon c cs
    omega

/-! ## §4 What is known -/

/-- A number starts here: a numeral, or a sign with a numeral behind it. -/
def StartsNumber (c : CodePoint) (cs : Text) : Prop :=
  startsUnsigned (c :: cs) = true ∨ (c == '-' || c == '+') = true ∧ startsUnsigned cs = true

/-- The kinds of what starts with `#`. -/
def hashKinds : List TokenKind := [.colorToken, .colorTokenName, .hexColor]

/-- The kinds of what starts with `$`. -/
def dollarKinds : List TokenKind := [.customProperty, .customPropertyName]

/-- The kinds of lexemes that are told by their first character. -/
def otherKinds : List TokenKind := [.whitespace, .string, .operator, .punctuation, .unknown]

theorem number_kind_mem (lexicon : Lexicon) (c : CodePoint) (cs : Text) :
    (number lexicon c cs).kind ∈ numberKinds := by
  show (unit lexicon (cs.drop (numeralTail c cs).length)).1 ∈ numberKinds
  unfold unit
  split
  · simp [numberKinds]
  · exact lexicon.unitKind_mem _

theorem word_kind_mem (lexicon : Lexicon) (c : CodePoint) (cs : Text) :
    (word lexicon c cs).kind ∈ wordKinds := by
  rw [word_eq]
  unfold wordBehind
  split
  · simp [prepend, callBehind, wordKinds]
  · exact lexicon.wordKind_mem _

theorem hash_kind_mem (cs : Text) :
    (hash cs).kind ∈ hashKinds ∧ (hash cs).arguments = none := by
  unfold hash
  split
  · exact ⟨by simp [hashKinds], rfl⟩
  · split <;> exact ⟨by simp [hashKinds], rfl⟩

theorem dollar_kind_mem (cs : Text) :
    (dollar cs).kind ∈ dollarKinds ∧ (dollar cs).arguments = none := by
  unfold dollar
  split <;> exact ⟨by simp [dollarKinds], rfl⟩

section Cases

variable {motive : (Lexicon → Lexeme) → Prop}

private theorem ite_cases {f g : Lexicon → Lexeme} {b : Bool} (yes : b = true → motive f)
    (no : b = false → motive g) : motive fun l => if b then f l else g l := by
  cases b with
  | false => exact no rfl
  | true => exact yes rfl

/-- How the first lexeme depends on what is known: as a number does, as a word does, or not at all.

The `motive` is about a lexeme as a function of the lexicon, so that two lexicons can be compared.
-/
theorem read_cases (c : CodePoint) (cs : Text)
    (number : StartsNumber c cs → motive fun l => number l c cs)
    (word : isNameStart c = true → motive fun l => word l c cs)
    (hash : c = CodePoint.char '#' → motive fun _ => hash cs)
    (dollar : c = CodePoint.char '$' → motive fun _ => dollar cs)
    (other : ∀ x : Lexeme, x.kind ∈ otherKinds → x.arguments = none → motive fun _ => x) :
    motive fun l => read l c cs := by
  have single (kind : TokenKind) (mem : kind ∈ otherKinds) (tail : Text) :
      motive fun _ => { kind, tail } := other _ mem rfl
  unfold read
  -- One condition after the other, in the order in which `read` tries them.
  refine ite_cases (fun _ => single _ (by decide) _) fun _ => ?_
  refine ite_cases (fun pound => hash (beq_iff_eq.mp pound)) fun _ => ?_
  refine ite_cases (fun money => dollar (beq_iff_eq.mp money)) fun _ => ?_
  refine ite_cases (fun _ => single _ (by decide) _) fun _ => ?_
  refine ite_cases (fun unsigned => number (.inl unsigned)) fun _ => ?_
  refine ite_cases (fun signed => number (.inr (Bool.and_eq_true_iff.mp signed))) fun _ => ?_
  refine ite_cases (fun _ => single _ (by decide) _) fun _ => ?_
  refine ite_cases (fun _ => single _ (by decide) _) fun _ => ?_
  exact ite_cases word fun _ => single _ (by decide) _

end Cases

/-- Only what starts like a number is lexed as one.

The other ways of reading, of which `read_cases` gives a list, have kinds of their own. -/
theorem read_eq_number_or (lexicon : Lexicon) (c : CodePoint) (cs : Text) :
    StartsNumber c cs ∧ read lexicon c cs = number lexicon c cs ∨
      (read lexicon c cs).kind ∉ numberKinds := by
  refine read_cases (motive := fun f => StartsNumber c cs ∧ f lexicon = number lexicon c cs ∨
    (f lexicon).kind ∉ numberKinds) c cs ?number ?word ?hash ?dollar ?other
  case number => exact fun starts => .inl ⟨starts, rfl⟩
  case word =>
    have apart : ∀ kind ∈ wordKinds, kind ∉ numberKinds := by decide
    exact fun _ => .inr (apart _ (word_kind_mem lexicon c cs))
  case hash =>
    have apart : ∀ kind ∈ hashKinds, kind ∉ numberKinds := by decide
    exact fun _ => .inr (apart _ (hash_kind_mem cs).1)
  case dollar =>
    have apart : ∀ kind ∈ dollarKinds, kind ∉ numberKinds := by decide
    exact fun _ => .inr (apart _ (dollar_kind_mem cs).1)
  case other =>
    have apart : ∀ kind ∈ otherKinds, kind ∉ numberKinds := by decide
    exact fun x kind _ => .inr (apart _ kind)

/-- Only a word can be a call, or the bare name of a function, or a word that is nothing else.

No other lexeme has arguments. -/
theorem read_eq_word_or (lexicon : Lexicon) (c : CodePoint) (cs : Text) :
    isNameStart c = true ∧ read lexicon c cs = word lexicon c cs ∨
      (read lexicon c cs).kind ∉ [TokenKind.function, .identifier] ∧
        (read lexicon c cs).arguments = none := by
  -- No list of kinds but that of words holds one of the two.
  refine read_cases (motive := fun f => isNameStart c = true ∧ f lexicon = word lexicon c cs ∨
    (f lexicon).kind ∉ [TokenKind.function, .identifier] ∧ (f lexicon).arguments = none)
    c cs ?number ?word ?hash ?dollar ?other
  case number =>
    have apart : ∀ kind ∈ numberKinds, kind ∉ [TokenKind.function, .identifier] := by decide
    exact fun _ => .inr ⟨apart _ (number_kind_mem lexicon c cs), rfl⟩
  case word => exact fun start => .inl ⟨start, rfl⟩
  case hash =>
    have apart : ∀ kind ∈ hashKinds, kind ∉ [TokenKind.function, .identifier] := by decide
    exact fun _ => .inr ⟨apart _ (hash_kind_mem cs).1, (hash_kind_mem cs).2⟩
  case dollar =>
    have apart : ∀ kind ∈ dollarKinds, kind ∉ [TokenKind.function, .identifier] := by decide
    exact fun _ => .inr ⟨apart _ (dollar_kind_mem cs).1, (dollar_kind_mem cs).2⟩
  case other =>
    have apart : ∀ kind ∈ otherKinds, kind ∉ [TokenKind.function, .identifier] := by decide
    exact fun x kind plain => .inr ⟨apart _ kind, plain⟩

/-- Only what starts with the sigil is read as a token of its kind.

The kinds with a sigil are those of `sigilOf?`: a colour and a custom property. -/
theorem eq_sigil_of_read {lexicon : Lexicon} {c sigil : CodePoint} {cs : Text}
    (kind : sigilOf? (read lexicon c cs).kind = some sigil) : c = sigil := by
  -- Each way of reading has a list of kinds, and a look through the list tells which have a sigil.
  refine read_cases (motive := fun f => sigilOf? (f lexicon).kind = some sigil → c = sigil)
    c cs ?number ?word ?hash ?dollar ?other kind
  case number =>
    have none : ∀ kind ∈ numberKinds, sigilOf? kind = none := by decide
    intro _ found
    rw [none _ (number_kind_mem lexicon c cs)] at found
    cases found
  case word =>
    have none : ∀ kind ∈ wordKinds, sigilOf? kind = none := by decide
    intro _ found
    rw [none _ (word_kind_mem lexicon c cs)] at found
    cases found
  case hash =>
    have sole : ∀ kind ∈ hashKinds, ∀ other ∈ sigilOf? kind, other = '#' := by decide
    intro sign found
    rw [sign, sole _ (hash_kind_mem cs).1 sigil found]
  case dollar =>
    have sole : ∀ kind ∈ dollarKinds, ∀ other ∈ sigilOf? kind, other = '$' := by decide
    intro sign found
    rw [sign, sole _ (dollar_kind_mem cs).1 sigil found]
  case other =>
    have none : ∀ kind ∈ otherKinds, sigilOf? kind = none := by decide
    intro x other _ found
    rw [none _ other] at found
    cases found

/-! ## §5 Calls -/

/-- The arguments of a call and what closes them: a parenthesis behind balanced arguments, or
nothing behind arguments that never get so far. -/
def ClosedBy (arguments close : Text) : Prop :=
  close = [CodePoint.char ')'] ∧ Balanced arguments ∨ close = [] ∧ NeverOvercloses arguments

/-- What the scan for the closing parenthesis takes are arguments, closed by the next character or
open to the end, as `ClosedBy` has it. -/
theorem closedBy_untilClosed (cs : Text) :
    ClosedBy (untilClosed 1 cs) ((cs.drop (untilClosed 1 cs).length).take 1) := by
  obtain all | ⟨balanced, rest, split⟩ := untilClosed_cases cs
  · refine .inr ⟨?_, neverOvercloses_untilClosed cs⟩
    rw [all, List.drop_length, List.take_nil]
  · -- The scan has stopped in front of the parenthesis that closes them.
    refine .inl ⟨?_, balanced⟩
    have behind : cs.drop (untilClosed 1 cs).length = CodePoint.char ')' :: rest := by
      have left : untilClosed 1 cs ++ cs.drop (untilClosed 1 cs).length = cs :=
        (reads_untilClosed 1).append_drop cs
      exact List.append_cancel_left (left.trans split)
    rw [behind]
    rfl

theorem not_open_mem_dashedName (cs : Text) : CodePoint.char '(' ∉ dashedName cs := by
  intro h
  have dashed : isDashedNameChar (CodePoint.char '(') = true := (List.mem_takeWhile_imp h)
  revert dashed
  decide

theorem not_open_mem_word {c : CodePoint} (start : isNameStart c = true) (cs : Text) :
    CodePoint.char '(' ∉ c :: dashedName cs := by
  rw [List.mem_cons, not_or]
  refine ⟨?_, not_open_mem_dashedName cs⟩
  rintro rfl
  revert start
  decide

/-- What a call consists of: behind its first character `c` the rest of its name, its arguments,
what closes them, and what follows the call.

The parts are told by the text alone, but `read_eq` is about a lexicon; that any other lexicon finds
the same call is `CallParts.recast`. -/
structure CallParts (lexicon : Lexicon) (c : CodePoint) (name arguments close rest : Text) :
    Prop where
  noneBefore : CodePoint.char '(' ∉ c :: name
  closedBy : ClosedBy arguments close
  read_eq : read lexicon c (name ++ CodePoint.char '(' :: (arguments ++ close) ++ rest) =
    { kind := .function, tail := name ++ CodePoint.char '(' :: (arguments ++ close)
      arguments := some (name.length + 1, arguments.length) }

/-- The first lexeme is a call, or it has no argument list.

In the second case it may still be the bare name of a function, which is no call: its kind is
`.function`, and no parenthesis is in its text. -/
theorem read_call_or_plain (lexicon : Lexicon) (c : CodePoint) (cs : Text) :
    (∃ name arguments close rest,
      cs = name ++ CodePoint.char '(' :: (arguments ++ close) ++ rest ∧
      CallParts lexicon c name arguments close rest) ∨
    (read lexicon c cs).arguments = none ∧
      ¬((read lexicon c cs).kind = .function ∧
        CodePoint.char '(' ∈ c :: (read lexicon c cs).tail) := by
  obtain ⟨start, isWord⟩ | ⟨kind, plain⟩ := read_eq_word_or lexicon c cs
  · have notOpen := not_open_mem_word start cs
    have whole : dashedName cs ++ cs.drop (dashedName cs).length = cs :=
      reads_dashedName.append_drop cs
    -- A word is a call exactly if a parenthesis stands right behind its name.
    by_cases opens : (cs.drop (dashedName cs).length).head? = some (CodePoint.char '(')
    · obtain ⟨behind, ahead⟩ := List.head?_eq_some_iff.mp opens
      have arguments : untilClosed 1 behind ++ behind.drop (untilClosed 1 behind).length
          = behind := (reads_untilClosed 1).append_drop behind
      -- What the scan takes, the next character and the rest are the parts of the call.
      have regrouped : cs = dashedName cs ++ CodePoint.char '(' :: (untilClosed 1 behind ++
          (behind.drop (untilClosed 1 behind).length).take 1) ++
            (behind.drop (untilClosed 1 behind).length).drop 1 := by
        rw [List.append_assoc, List.cons_append, List.append_assoc, List.take_append_drop,
          arguments, ← ahead, whole]
      refine .inl ⟨_, _, _, _, regrouped, notOpen, closedBy_untilClosed behind, ?_⟩
      rw [← regrouped, isWord, word_eq, ahead]
      rfl
    · have bare : wordBehind lexicon c (dashedName cs) (cs.drop (dashedName cs).length) =
          { kind := lexicon.wordKind (c :: dashedName cs), tail := [] } := by
        unfold wordBehind
        split
        · next ahead => exact absurd (by rw [ahead]; rfl) opens
        · rfl
      rw [isWord, word_eq, bare]
      -- A bare word has no parenthesis in its text.
      refine .inr ⟨rfl, fun call => notOpen ?_⟩
      simpa [prepend] using call.2
  · refine .inr ⟨plain, fun call => kind ?_⟩
    rw [call.1]
    exact List.mem_cons_self

/-- A call that is not closed goes on to the end of the text. The scan `untilClosed` stops short
only of a closing parenthesis, which the call would have taken. -/
theorem CallParts.rest_eq_nil {lexicon : Lexicon} {c : CodePoint} {name arguments rest : Text}
    (h : CallParts lexicon c name arguments [] rest) : rest = [] := by
  have made := h.read_eq
  obtain ⟨-, isWord⟩ | ⟨-, plain⟩ := read_eq_word_or lexicon c
    (name ++ CodePoint.char '(' :: (arguments ++ []) ++ rest)
  · rw [isWord, word_eq] at made
    unfold wordBehind at made
    split at made
    · next behind opens =>
      -- The word takes what the call takes, and it stops short only of a closing parenthesis.
      have whole := congrArg List.length opens
      have taken := congrArg (List.length ∘ Lexeme.tail) made
      have places := congrArg Lexeme.arguments made
      simp only [prepend, callBehind, Function.comp_apply, List.length_append, List.length_cons,
        List.length_take, List.length_drop, List.length_nil, Option.some.injEq,
        Prod.mk.injEq] at whole taken places
      exact List.eq_nil_of_length_eq_zero (by omega)
    · have places := congrArg Lexeme.arguments made
      cases places
  · rw [made] at plain
    cases plain

end Lexeme

end StyleCheck.Value
