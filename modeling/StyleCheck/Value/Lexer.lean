import StyleCheck.Settings
import StyleCheck.Text.Scan
import StyleCheck.Token

/-!
# Lexing style values

Turns a style value such as `2x 1r #primary.5` or `calc(100% - 2x)` into a token tree. Nothing is
refused: a name that nobody knows is still a token, and a character that no rule covers is a token
of its own. Judging them is left to the checks.

A value is read lexeme by lexeme. Which lexeme comes first, and how long it is, depends on the
characters ahead alone; positions are assigned by the loop around it. The argument list of a call
is lexed like a value of its own, in the coordinates of the whole.

## Main definitions

- `Value.Lexicon`: the names that classify words and units.
- `Value.Lexeme.read`: the first lexeme of a value.
- `Value.lex`: the tokens of a value.
-/

namespace StyleCheck.Value

open Text

/-! ## §1 The lexicon -/

/-- What a project knows, as far as it decides the kinds of tokens. Colour tokens are told by their
form, so the permitted `tokens` play no part. -/
structure Lexicon where
  tokens : Permitted := .anything
  units : List Text := []
  presets : List Text := []

/-- The lexicon of a document's `Settings`. -/
def Lexicon.ofSettings (s : Settings) : Lexicon where
  tokens := s.tokens
  units := s.units.listed
  presets := s.presets

/-- The kind of a number by the `unit` that stands behind it.

A unit of the project takes precedence over one of the style sheet language, and a unit that nobody
knows counts as one of the project. -/
def Lexicon.unitKind (lexicon : Lexicon) (unit : Text) : TokenKind :=
  if unit.isEmpty then .number
  else if Vocabulary.builtInUnits.contains unit || lexicon.units.contains unit then .customUnit
  else if Vocabulary.cssUnits.contains unit then .cssUnit
  else .customUnit

/-- The kind of a `word` that is not called. -/
def Lexicon.wordKind (lexicon : Lexicon) (word : Text) : TokenKind :=
  if word == "true".toText || word == "false".toText then .boolean
  else if Vocabulary.presetModifiers.contains word then .presetModifier
  else if Vocabulary.directionModifiers.contains word then .direction
  else if lexicon.presets.contains word then .preset
  else if Vocabulary.cssFunctions.contains word then .function
  else .identifier

/-! ## §2 Lexemes -/

/-- The first token of a value, before its position is known: its kind, its characters after the
first one and, for a call, its `arguments`: where among those characters they start and how many
they take. -/
structure Lexeme where
  kind : TokenKind
  tail : Text
  arguments : Option (Nat × Nat) := none
deriving Repr

namespace Lexeme

/-- The numbers of digits that a colour by digits may have, longest first. -/
def hexLengths : List Nat := [8, 6, 4, 3]

/-- Whether the text starts with exactly `n` hexadecimal digits in the sense that no identifier
goes on behind the `n`th. -/
def startsWithHex (cs : Text) (n : Nat) : Bool :=
  (cs.take n).length == n && (cs.take n).all isHexDigit
    && (cs.drop n).head?.all (!isDashedNameChar ·)

/-- An opacity suffix behind the name of a colour: a point with a custom property, as in `.$name`,
or with digits, of which there may be none. -/
def opacitySuffix : Text → Text
  | '.' :: '$' :: cs => '.' :: '$' :: dashedName cs
  | '.' :: cs => '.' :: digits cs
  | _ => []

/-- A lexeme that starts with `#`. -/
def hash : Text → Lexeme
  | '#' :: cs => { kind := .colorTokenName, tail := '#' :: dashedName cs }
  | cs =>
    match hexLengths.find? (startsWithHex cs) with
    | some n => { kind := .hexColor, tail := cs.take n }
    | none =>
      let name := dashedName cs
      { kind := .colorToken, tail := name ++ opacitySuffix (cs.drop name.length) }

/-- A lexeme that starts with `$`. -/
def dollar : Text → Lexeme
  | '$' :: cs => { kind := .customPropertyName, tail := '$' :: dashedName cs }
  | cs => { kind := .customProperty, tail := dashedName cs }

/-- What stands behind a numeral, with the kind it makes of the number: a percent sign, or a unit
that may be empty and is judged by `unitKind`. -/
def unit (lexicon : Lexicon) : Text → TokenKind × Text
  | '%' :: _ => (.cssUnit, ['%'])
  | cs => (lexicon.unitKind (name cs), name cs)

/-- A number. The character `c` is a sign or belongs to the numeral itself. -/
def number (lexicon : Lexicon) (c : CodePoint) (cs : Text) : Lexeme :=
  let numeral :=
    if c == '+' || c == '-' then unsignedNumeral cs else (unsignedNumeral (c :: cs)).drop 1
  let (kind, behind) := unit lexicon (cs.drop numeral.length)
  { kind, tail := numeral ++ behind }

/-- A word. With a parenthesis right behind it, it is a call, whose argument list goes on to the
parenthesis that closes it or to the end of the text.

An open call takes the rest of the text, and its `arguments` then lack the closing parenthesis only.
-/
def word (lexicon : Lexicon) (c : CodePoint) (cs : Text) : Lexeme :=
  let rest := dashedName cs
  match cs.drop rest.length with
  | '(' :: behind =>
    let arguments := untilClosed 1 behind
    { kind := .function
      tail := rest ++ CodePoint.char '(' :: arguments ++ (behind.drop arguments.length).take 1
      arguments := some (rest.length + 1, arguments.length) }
  | _ => { kind := lexicon.wordKind (c :: rest), tail := rest }

/-- The arithmetic operators. -/
def isOperator (c : CodePoint) : Bool := "+-*/".toText.contains c

/-- Brackets and separators. -/
def isPunctuation (c : CodePoint) : Bool := "()\x7b\x7d[]:,;".toText.contains c

/-- The first lexeme of the text `c :: cs`. -/
def read (lexicon : Lexicon) (c : CodePoint) (cs : Text) : Lexeme :=
  if isBlank c then { kind := .whitespace, tail := cs.takeWhile isBlank }
  else if c == '#' then hash cs
  else if c == '$' then dollar cs
  else if c == '"' || c == '\'' then { kind := .string, tail := quotedTail c cs }
  else if startsUnsigned (c :: cs) then number lexicon c cs
  else if (c == '-' || c == '+') && startsUnsigned cs then number lexicon c cs
  else if isOperator c then { kind := .operator, tail := [] }
  else if isPunctuation c then { kind := .punctuation, tail := [] }
  else if isNameStart c then word lexicon c cs
  else { kind := .unknown, tail := [] }

end Lexeme

/-! ## §3 The token stream -/

/-- The tokens of a text that stands at a given `position`, those of arguments included. -/
def lexFrom (lexicon : Lexicon) (position : Nat) : Text → List Token
  | [] => []
  | c :: cs =>
    let lexeme := Lexeme.read lexicon c cs
    let stop := position + 1 + lexeme.tail.length
    let children := match lexeme.arguments with
      | none => []
      | some (skip, length) =>
        lexFrom lexicon (position + 1 + skip) ((cs.drop skip).take length)
    { kind := lexeme.kind, text := c :: lexeme.tail, start := position, stop, children }
      :: lexFrom lexicon stop (cs.drop lexeme.tail.length)
termination_by cs => cs.length
decreasing_by
  · simp only [List.length_cons, List.length_take, List.length_drop]; omega
  · simp only [List.length_cons, List.length_drop]; omega

/-- The tokens of a style value, from the offset zero of its `text` on. -/
def lex (lexicon : Lexicon) (text : Text) : List Token := lexFrom lexicon 0 text

end StyleCheck.Value
