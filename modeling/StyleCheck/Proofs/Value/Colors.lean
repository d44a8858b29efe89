import StyleCheck.Proofs.Token.Names
import StyleCheck.Proofs.Value.Lexicon

/-!
# Colours

What starts with `#` is a colour. Which kind of colour it is and how far it goes is told by the
whole name behind the sign, although the lexer does not read the name first: it looks for digits in
some given numbers, and goes back to the name where it finds none. The same name is met when the
colour stands in the arguments of a call, which are lexed without what follows them.

## Main definitions

- `IsHexRun`: the names that give a colour by its digits.
- `OpacityForm`: what an opacity suffix takes of the characters behind a name.
- `HashForm`: the kind and the text of a token by the characters behind `#`.

## Main statements

- `Lexeme.hashForm_hash`: the form of a lexeme that starts with `#`.
- `hashForm_of_mem_flatten`: the form of every such token of a value.
-/

namespace StyleCheck.Value

open Text
open Token (flatten)

/-! ## §1 Forms -/

/-- A name that gives a colour by its digits: three, four, six or eight, and nothing else. -/
def IsHexRun (name : Text) : Prop :=
  name.length ∈ [3, 4, 6, 8] ∧ ∀ c ∈ name, isHexDigit c = true

/-- What an opacity suffix takes of the characters behind a name. The cases are those of
`opacitySuffix`. -/
inductive OpacityForm : Text → Text → Prop
  /-- Without a point, there is no suffix. -/
  | none {cs : Text} : cs.head? ≠ some (CodePoint.char '.') → OpacityForm cs []
  /-- A custom property is taken with all of its name. -/
  | property (cs : Text) : OpacityForm (CodePoint.char '.' :: CodePoint.char '$' :: cs)
      (CodePoint.char '.' :: CodePoint.char '$' :: dashedName cs)
  /-- Otherwise all digits are taken, of which there may be none. -/
  | digits {cs : Text} : cs.head? ≠ some (CodePoint.char '$') →
      OpacityForm (CodePoint.char '.' :: cs) (CodePoint.char '.' :: digits cs)

/-- The kind and the text of a token by the characters behind the `#` that it starts with. -/
structure HashForm (behind : Text) (kind : TokenKind) (text : Text) : Prop where
  /-- Behind a second `#` stands the name of a colour that is defined. -/
  doubled : ∀ cs, behind = CodePoint.char '#' :: cs → kind = .colorTokenName ∧
    text = CodePoint.char '#' :: CodePoint.char '#' :: dashedName cs
  /-- Only the whole name makes a colour by digits. -/
  hex_iff : behind.head? ≠ some (CodePoint.char '#') →
    (kind = .hexColor ↔ IsHexRun (dashedName behind))
  /-- A colour by digits takes the whole name and nothing more. -/
  hex : kind = .hexColor → text = CodePoint.char '#' :: dashedName behind
  /-- Any other name may have an opacity suffix. -/
  named : behind.head? ≠ some (CodePoint.char '#') → ¬IsHexRun (dashedName behind) →
    kind = .colorToken ∧ ∃ suffix, text = CodePoint.char '#' :: (dashedName behind ++ suffix) ∧
      OpacityForm (behind.drop (dashedName behind).length) suffix

/-- A colour by name is its name with a suffix, which may be empty.

Behind a second `#` there would be a colour of another kind. -/
theorem HashForm.exists_suffix {behind text : Text} (h : HashForm behind .colorToken text) :
    ∃ suffix, text = CodePoint.char '#' :: (dashedName behind ++ suffix) ∧
      OpacityForm (behind.drop (dashedName behind).length) suffix := by
  have single : behind.head? ≠ some (CodePoint.char '#') := by
    intro doubled
    obtain ⟨rest, rfl⟩ := List.head?_eq_some_iff.mp doubled
    cases (h.doubled rest rfl).1
  have notDigits : ¬IsHexRun (dashedName behind) := by
    intro digits
    cases (h.hex_iff single).mpr digits
  exact (h.named single notDigits).2

/-! ## §2 Lexemes -/

namespace Lexeme

/-- The check for digits is the property `IsHexRun`. -/
theorem isHexName_iff {name : Text} : isHexName name = true ↔ IsHexRun name := by
  have lengths : name.length ∈ hexLengths ↔ name.length ∈ [3, 4, 6, 8] :=
    (List.reverse_perm [3, 4, 6, 8]).mem_iff
  rw [isHexName, Bool.and_eq_true, List.contains_iff_mem, List.all_eq_true, lengths, IsHexRun]

/-- What `opacitySuffix` takes has the form that the characters there give it. -/
theorem opacityForm_opacitySuffix (cs : Text) : OpacityForm cs (opacitySuffix cs) := by
  unfold opacitySuffix
  split
  · next cs => exact .property cs
  · next cs other =>
    -- A property would have come under the first case.
    refine .digits fun property => ?_
    obtain ⟨rest, rfl⟩ := List.head?_eq_some_iff.mp property
    exact other rest rfl
  · next noPoint =>
    refine .none fun point => ?_
    obtain ⟨rest, rfl⟩ := List.head?_eq_some_iff.mp point
    exact noPoint rest rfl

/-- The search for digits in some given numbers finds the form that the whole name has.

By `hash_eq`, the search is over the whole name. -/
theorem hashForm_hash (cs : Text) :
    HashForm cs (hash cs).kind (CodePoint.char '#' :: (hash cs).tail) := by
  by_cases doubled : cs.head? = some (CodePoint.char '#')
  · obtain ⟨rest, rfl⟩ := List.head?_eq_some_iff.mp doubled
    refine ⟨?_, fun single => absurd rfl single, nofun, fun single => absurd rfl single⟩
    rintro _ ⟨⟩
    exact ⟨rfl, rfl⟩
  -- From here on, the sign is a single one.
  have second (rest : Text) : cs ≠ CodePoint.char '#' :: rest := by
    rintro rfl
    exact doubled rfl
  rw [hash_eq doubled]
  by_cases hex : isHexName (dashedName cs) = true
  · have digits := isHexName_iff.mp hex
    rw [if_pos hex]
    exact ⟨fun rest same => absurd same (second rest), fun _ => iff_of_true rfl digits,
      fun _ => rfl, fun _ named => absurd digits named⟩
  · have notDigits : ¬IsHexRun (dashedName cs) := fun digits => hex (isHexName_iff.mpr digits)
    rw [if_neg hex]
    refine ⟨fun rest same => absurd same (second rest), fun _ => iff_of_false nofun notDigits,
      nofun, fun _ _ => ⟨rfl, _, rfl, opacityForm_opacitySuffix _⟩⟩

/-- What starts with `#` is read by `hash`, whatever the lexicon. -/
theorem read_hash (lexicon : Lexicon) (cs : Text) :
    read lexicon (CodePoint.char '#') cs = hash cs := rfl

end Lexeme

/-! ## §3 Tokens -/

variable {lexicon : Lexicon} {text : Text} {t : Token}

/-- A token that starts with `#` is what the lexer makes of all that lies ahead of it.

In a call the lexer sees only the arguments, `cs`. What follows them is a closing parenthesis, which
is `Foreign` to names. -/
theorem exists_hash_ahead (ht : t ∈ flatten (lex lexicon text))
    (sign : t.text.head? = some (CodePoint.char '#')) :
    ∃ behind, text.drop t.start.toNat = CodePoint.char '#' :: behind ∧
      t.stop = t.start + t.text.length ∧ t.kind = (Lexeme.hash behind).kind ∧
      t.text = CodePoint.char '#' :: (Lexeme.hash behind).tail := by
  obtain ⟨place, c, cs, back, ahead, ends, rfl⟩ := exists_firstToken_ahead ht
  obtain rfl : c = CodePoint.char '#' := Option.some.inj sign
  -- The arguments of a call do not hide anything that a colour would take.
  have same : Lexeme.hash cs = Lexeme.hash (cs ++ back) :=
    ends.read_eq Lexeme.reads_hash (Lexeme.foreign_hash foreign_close _)
  refine ⟨cs ++ back, ahead, ?_, ?_, ?_⟩
  · simp only [firstToken, List.length_cons]
    push_cast
    omega
  · rw [firstToken, Lexeme.read_hash, same]
  · rw [firstToken, Lexeme.read_hash, same]

/-- A token of a value, at any depth, that starts with `#` has the form that the characters behind
the sign give it, whatever is known and whatever comes after.

Behind another `#` it is the name of a colour, and otherwise the whole name behind the sign tells
whether it is a colour by digits, or a colour by name, which may have an opacity suffix. That is
what the fields of `HashForm` say. -/
theorem hashForm_of_mem_flatten (lexicon : Lexicon) (text : Text) :
    ∀ t ∈ flatten (lex lexicon text), t.text.head? = some (CodePoint.char '#') →
      ∃ behind, text.drop t.start.toNat = CodePoint.char '#' :: behind ∧
        t.stop = t.start + t.text.length ∧ HashForm behind t.kind t.text := by
  intro t ht sign
  obtain ⟨behind, ahead, stop, kind, text⟩ := exists_hash_ahead ht sign
  refine ⟨behind, ahead, stop, ?_⟩
  rw [kind, text]
  exact Lexeme.hashForm_hash behind

/-- The parenthesis that ends the arguments of a call also ends the colour in front of it. -/
theorem hashForm_argument : ∃ t ∈ flatten (lex {} "f(#dark.$a) b".toText),
    t.text.head? = some (CodePoint.char '#') ∧ HashForm "dark.$a) b".toText t.kind t.text := by
  have there : ∃ t ∈ flatten (lex {} "f(#dark.$a) b".toText),
      t.text.head? = some (CodePoint.char '#') ∧ t.start = 2 := by
    decide +kernel
  obtain ⟨t, ht, sign, start⟩ := there
  obtain ⟨behind, ahead, -, form⟩ := hashForm_of_mem_flatten {} "f(#dark.$a) b".toText t ht sign
  rw [start] at ahead
  obtain rfl : "dark.$a) b".toText = behind := List.tail_eq_of_cons_eq ahead
  exact ⟨t, ht, sign, form⟩

end StyleCheck.Value
