import StyleCheck.Text.Alphanumeric
import StyleCheck.Text.CharClass

/-!
# What a key is

The keys of a style mapping are told apart by their form alone: state keys, sub-elements, and
names that define an alias for a state.

## Main definitions

- `isStateKey`: whether a key looks like a state and not like a style property.
- `isSubElement`: whether a key names a sub-element.
- `isAliasDefinition`: whether a key with a text value defines an alias.
-/

namespace StyleCheck.StateKey

open Text

/-! ## §1 State keys and sub-elements -/

/-- What a modifier in a state key goes on with. -/
def isModifierChar (c : CodePoint) : Bool := isSmall c || isDigit c || c == '-'

/-- A lone modifier: small letters, digits and hyphens, a letter first. One line break behind it is
no matter, for `dropFinalNewline`. -/
def isModifier (key : Text) : Bool :=
  match dropFinalNewline key with
  | [] => false
  | c :: cs => isSmall c && cs.all isModifierChar

/-- A modifier that is compared with a value, as in `theme=dark`. -/
def startsWithComparison : Text → Bool
  | [] => false
  | c :: cs => isSmall c && (cs.dropWhile isModifierChar).head? == some '='

/-- The characters that start a selector or an advanced state. -/
def isSelectorStart (c : CodePoint) : Bool := ":.[@".toText.contains c

/-- The operators that combine states. -/
def isLogicalOperator (c : CodePoint) : Bool := "&|!^".toText.contains c

/-- Whether a key looks like a state key. The empty key is the default state.

This is a guess by the look of the key alone: a property whose name is made of small letters passes
for an `isModifier` too. -/
def isStateKey (key : Text) : Bool :=
  key.isEmpty || isModifier key || startsWithComparison key || key.head?.any isSelectorStart
    || key.any isLogicalOperator

/-- Whether a key names a sub-element: it starts with a capital letter, `isCapital`. -/
def isSubElement (key : Text) : Bool := key.head?.any isCapital

/-! ## §2 Alias definitions -/

/-- Whether a name has the form of an alias: `@`, a letter or underscore, then word characters and
hyphens. One line break behind it is no matter. -/
def isAliasName : Text → Bool
  | '@' :: c :: cs => isNameStart c && (dropFinalNewline cs).all isDashedWordChar
  | _ => false

/-- The names that start with `@` and have a meaning of their own. -/
def atKeywords : List Text :=
  ["@media", "@supports", "@root", "@own", "@starting", "@keyframes", "@properties"].map
    String.toText

/-- Whether an entry of a state mapping defines an alias rather than using one: the name satisfies
`isAliasName` and is no keyword, and the value has the form of a state key. -/
def isAliasDefinition (name value : Text) : Bool :=
  isAliasName name && !atKeywords.contains name && !value.isEmpty && isStateKey value

end StyleCheck.StateKey
