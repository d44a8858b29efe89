import StyleCheck.Text.CharClass

/-!
# Scanning

What the lexers read off the front of a text. Each scanner returns the characters it takes, which
are the first ones of its input; what it leaves is the input without that many characters.

## Main definitions

- `name`, `dashedName`, `digits`: the longest run of a class.
- `group`, `groupBetween`: from an opening character through the one that closes it.
- `quotedFrom`: from a quote through its closing quote.
- `untilClosed`: what stands between an open bracket and the one that closes it.
-/

namespace StyleCheck.Text

/-! ## §1 Runs -/

/-- The longest run of characters that are `isDigit`. -/
def digits (cs : Text) : Text := cs.takeWhile isDigit

/-- The longest run of letters, digits and underscores: characters that are `isNameChar`. -/
def name (cs : Text) : Text := cs.takeWhile isNameChar

/-- The longest run of letters, digits, underscores and hyphens: characters that are
`isDashedNameChar`. -/
def dashedName (cs : Text) : Text := cs.takeWhile isDashedNameChar

/-- Whether the text starts with a digit. -/
def startsWithDigit : Text → Bool
  | [] => false
  | c :: _ => isDigit c

/-- A decimal point with digits behind it; nothing where no digit follows the point. -/
def fraction : Text → Text
  | '.' :: cs => if startsWithDigit cs then '.' :: digits cs else []
  | _ => []

/-- Digits, perhaps with a `fraction`. The digits in front of the fraction may be missing. -/
def unsignedNumeral (cs : Text) : Text :=
  let whole := digits cs
  whole ++ fraction (cs.drop whole.length)

/-- Whether a number without a sign starts here: a digit, or a point and a digit. -/
def startsUnsigned : Text → Bool
  | '.' :: cs => startsWithDigit cs
  | cs => startsWithDigit cs

/-! ## §2 Brackets -/

/-- What follows an `opener`, given how many groups are open, through the `closer` that ends the
last of them; everything, if no closer does. -/
def groupTail (opener closer : CodePoint) : Nat → Text → Text
  | _, [] => []
  | depth, c :: cs =>
    if c == opener then c :: groupTail opener closer (depth + 1) cs
    else if c == closer then
      if depth ≤ 1 then [c] else c :: groupTail opener closer (depth - 1) cs
    else c :: groupTail opener closer depth cs

/-- A bracketed group: from an `opener` through the `closer` that matches it, or to the end of the
text if it stays open. Nothing, where the text does not start with the opener. -/
def group (opener closer : CodePoint) : Text → Text
  | [] => []
  | c :: cs => if c == opener then c :: groupTail opener closer 1 cs else []

/-- A bracketed group between brackets that are given as texts.

Characters are compared one by one, so only a bracket of one character is ever met: with another
`opener` there is no group, and with another `closer` a group stays open. -/
def groupBetween (opener closer cs : Text) : Text :=
  match opener, closer with
  | [left], [right] => group left right cs
  | [left], _ => if cs.head? == some left then cs else []
  | _, _ => []

/-- What stands before the parenthesis that closes the outermost of `depth` open ones. -/
def untilClosed : Nat → Text → Text
  | _, [] => []
  | depth, c :: cs =>
    if c == '(' then c :: untilClosed (depth + 1) cs
    else if c == ')' then
      if depth ≤ 1 then [] else c :: untilClosed (depth - 1) cs
    else c :: untilClosed depth cs

/-! ## §3 Quotes -/

/-- What follows an opening `quote`, through the closing one or to the end of the text. A backslash
takes the character behind it along. -/
def quotedTail (quote : CodePoint) : Text → Text
  | [] => []
  | '\\' :: [] => ['\\']
  | '\\' :: c :: cs => '\\' :: c :: quotedTail quote cs
  | c :: cs => if c == quote then [c] else c :: quotedTail quote cs

/-- A quoted string: the first character is the quote, whatever it is, and `quotedTail` reads the
rest. -/
def quotedFrom : Text → Text
  | [] => []
  | quote :: cs => quote :: quotedTail quote cs

/-- What follows an opening `quote`, through the closing one or to the end; a backslash has no
meaning here, unlike in `quotedTail`. -/
def plainQuotedTail (quote : CodePoint) (cs : Text) : Text :=
  let content := cs.takeWhile (· != quote)
  content ++ (cs.drop content.length).take 1

end StyleCheck.Text
