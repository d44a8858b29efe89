import StyleCheck.Text.Printable

/-!
# Quoted text

How listings and log messages show a text: between quotes, on one line, with everything that has
no printed form of its own written as an escape.

- Single quotes, unless the text holds a single quote and no double one.
- A backslash before a backslash and before the quote in use; letters for tab, line feed and
  carriage return.
- Other unprintable characters by their code point in lower-case hexadecimal digits: two after
  `\x`, four after `\u`, eight after `\U`.
-/

namespace StyleCheck.Text

/-- A number in hexadecimal, at least `width` digits wide. -/
def hexadecimal (width n : Nat) : Text := padStart width '0' ((Nat.toDigits 16 n).map .char)

/-- The quote that a quoted text stands between. -/
def quoteFor (cs : Text) : CodePoint :=
  if cs.contains '\'' && !cs.contains '"' then '"' else '\''

/-- How the character `c` is written between the given quotes. -/
def quotedChar (quote c : CodePoint) : Text :=
  if c == quote || c == '\\' then ['\\', c]
  else if c == '\t' then ['\\', 't']
  else if c == '\n' then ['\\', 'n']
  else if c == '\r' then ['\\', 'r']
  else if isPrintable c then [c]
  else if c.toNat < 0x100 then '\\' :: 'x' :: hexadecimal 2 c.toNat
  else if c.toNat < 0x10000 then '\\' :: 'u' :: hexadecimal 4 c.toNat
  else '\\' :: 'U' :: hexadecimal 8 c.toNat

/-- The quoted form of a text, between its `quoteFor`. -/
def quoted (cs : Text) : Text :=
  let quote := quoteFor cs
  quote :: cs.flatMap (quotedChar quote) ++ [quote]

/-- The quoted forms of several texts, as a bracketed list. -/
def quotedList (texts : List Text) : Text :=
  "[".toText ++ join [',', ' '] (texts.map quoted) ++ "]".toText

end StyleCheck.Text
