import StyleCheck.Text.CodePoints

/-!
# Character classes of the grammars

The grammars are written in ASCII: digits, letters and identifiers are ASCII ones, and any other
character is unknown to them. Blanks are the exception: white space of every script separates.
-/

namespace StyleCheck.Text

/-! ## §1 ASCII classes -/

/-- A digit. -/
def isDigit (c : CodePoint) : Bool := '0' ≤ c && c ≤ '9'

/-- A small letter. -/
def isSmall (c : CodePoint) : Bool := 'a' ≤ c && c ≤ 'z'

/-- A capital letter. -/
def isCapital (c : CodePoint) : Bool := 'A' ≤ c && c ≤ 'Z'

/-- A letter. -/
def isLetter (c : CodePoint) : Bool := isSmall c || isCapital c

/-- What an identifier starts with. -/
def isNameStart (c : CodePoint) : Bool := isLetter c || c == '_'

/-- What an identifier goes on with. -/
def isNameChar (c : CodePoint) : Bool := isNameStart c || isDigit c

/-- What an identifier with hyphens goes on with. -/
def isDashedNameChar (c : CodePoint) : Bool := isNameChar c || c == '-'

/-- A hexadecimal digit. -/
def isHexDigit (c : CodePoint) : Bool :=
  isDigit c || ('a' ≤ c && c ≤ 'f') || ('A' ≤ c && c ≤ 'F')

/-! ## §2 Blanks -/

/-- White space of every script, and the four separators of the control characters. -/
def blankRanges : CodePoints :=
  [(0x09, 0x0D), (0x1C, 0x20), (0x85, 0x85), (0xA0, 0xA0), (0x1680, 0x1680), (0x2000, 0x200A),
   (0x2028, 0x2029), (0x202F, 0x202F), (0x205F, 0x205F), (0x3000, 0x3000)]

/-- White space. -/
def isBlank (c : CodePoint) : Bool := blankRanges.has c

end StyleCheck.Text
