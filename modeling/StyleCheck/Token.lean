import StyleCheck.Text.Span

/-!
# Tokens

Classified parts of a style value or of a state key. Tokens form a tree: the arguments of a call
and the body of a state hang below the token that holds them, in the coordinates of the whole
text.

## Main definitions

- `TokenKind`: the classes of tokens of both grammars.
- `Token`: a token with its text, its offsets and its children.
- `Token.name`: the text up to an argument list or an opacity suffix.
- `Token.shift`: the token moved into another coordinate space.
-/

namespace StyleCheck

/-! ## §1 Kinds -/

/-- The classes of tokens. -/
inductive TokenKind
  /-- White space. -/
  | whitespace
  /-- A character that no rule of the grammar covers. -/
  | unknown
  /-- A colour by name, perhaps with an opacity: `#primary`, `#purple.5`, `#dark.$alpha`. -/
  | colorToken
  /-- A colour by its digits: `#fff`, `#aabbcc`. -/
  | hexColor
  /-- A use of a custom property: `$spacing`. -/
  | customProperty
  /-- The name of a custom property: `$$rotation`. -/
  | customPropertyName
  /-- The name of a colour: `##accent`. -/
  | colorTokenName
  /-- A number with a unit of the project: `2x`, `1r`. -/
  | customUnit
  /-- A number with a unit of the style sheet language: `16px`, `50%`. -/
  | cssUnit
  /-- A number without a unit. -/
  | number
  /-- A truth value. -/
  | boolean
  /-- A preset of the project: `h1`. -/
  | preset
  /-- A modifier of presets: `strong`. -/
  | presetModifier
  /-- A direction: `top`, `inline-start`. -/
  | direction
  /-- A call, or the bare name of a known function. -/
  | function
  /-- A quoted string. -/
  | string
  /-- Any other word. -/
  | identifier
  /-- An arithmetic operator. -/
  | operator
  /-- A bracket or a separator. -/
  | punctuation
  /-- The blank state key, which stands for the default state. -/
  | defaultState
  /-- A modifier that is on or off: `hovered`. -/
  | booleanMod
  /-- A modifier with a value: `theme=danger`. -/
  | valueMod
  /-- A pseudo-class or pseudo-element: `:hover`, `::before`, `:has(Body)`. -/
  | pseudoClass
  /-- A class selector: `.active`. -/
  | classSelector
  /-- An attribute selector: `[aria-expanded="true"]`. -/
  | attrSelector
  /-- A media query: `@media(w < 768px)`. -/
  | mediaState
  /-- A container query: `@(card, w >= 400px)`. -/
  | containerState
  /-- A feature query: `@supports(display: grid)`. -/
  | supportsState
  /-- A state of the root element: `@root(theme=dark)`. -/
  | rootState
  /-- A state of the sub-element itself: `@own(hovered)`. -/
  | ownState
  /-- The state an element starts from: `@starting`. -/
  | startingState
  /-- A logical operator, a comparison or a combinator. -/
  | stateOperator
  /-- A state by its alias: `@mobile`. -/
  | stateAlias
  /-- A sub-element: `Title`. -/
  | subElement
  /-- The whole value of the `$` property. -/
  | selectorAffix
  /-- A rule that is no state: `@keyframes`. -/
  | atRule
deriving DecidableEq, Repr

namespace TokenKind

/-- All kinds, in the order of their numbers. -/
def all : List TokenKind :=
  [whitespace, unknown, colorToken, hexColor, customProperty, customPropertyName, colorTokenName,
   customUnit, cssUnit, number, boolean, preset, presetModifier, direction, function, string,
   identifier, operator, punctuation, defaultState, booleanMod, valueMod, pseudoClass,
   classSelector, attrSelector, mediaState, containerState, supportsState, rootState, ownState,
   startingState, stateOperator, stateAlias, subElement, selectorAffix, atRule]

/-- The label of a kind in listings. -/
def label : TokenKind → String
  | whitespace => "WHITESPACE"
  | unknown => "UNKNOWN"
  | colorToken => "COLOR_TOKEN"
  | hexColor => "HEX_COLOR"
  | customProperty => "CUSTOM_PROPERTY"
  | customPropertyName => "CUSTOM_PROPERTY_NAME"
  | colorTokenName => "COLOR_TOKEN_NAME"
  | customUnit => "CUSTOM_UNIT"
  | cssUnit => "CSS_UNIT"
  | number => "NUMBER"
  | boolean => "BOOLEAN"
  | preset => "PRESET"
  | presetModifier => "PRESET_MODIFIER"
  | direction => "DIRECTION"
  | function => "FUNCTION"
  | string => "STRING"
  | identifier => "IDENTIFIER"
  | operator => "OPERATOR"
  | punctuation => "PUNCTUATION"
  | defaultState => "DEFAULT_STATE"
  | booleanMod => "BOOLEAN_MOD"
  | valueMod => "VALUE_MOD"
  | pseudoClass => "PSEUDO_CLASS"
  | classSelector => "CLASS_SELECTOR"
  | attrSelector => "ATTR_SELECTOR"
  | mediaState => "MEDIA_STATE"
  | containerState => "CONTAINER_STATE"
  | supportsState => "SUPPORTS_STATE"
  | rootState => "ROOT_STATE"
  | ownState => "OWN_STATE"
  | startingState => "STARTING_STATE"
  | stateOperator => "STATE_OPERATOR"
  | stateAlias => "STATE_ALIAS"
  | subElement => "SUB_ELEMENT"
  | selectorAffix => "SELECTOR_AFFIX"
  | atRule => "AT_RULE"

/-- The number of a kind: trivia from 1, values from 10, state keys from 40, structure from 60.
`all` is in this order. -/
def ordinal : TokenKind → Nat
  | whitespace => 1
  | unknown => 2
  | colorToken => 10
  | hexColor => 11
  | customProperty => 12
  | customPropertyName => 13
  | colorTokenName => 14
  | customUnit => 15
  | cssUnit => 16
  | number => 17
  | boolean => 18
  | preset => 19
  | presetModifier => 20
  | direction => 21
  | function => 22
  | string => 23
  | identifier => 24
  | operator => 25
  | punctuation => 26
  | defaultState => 40
  | booleanMod => 41
  | valueMod => 42
  | pseudoClass => 43
  | classSelector => 44
  | attrSelector => 45
  | mediaState => 46
  | containerState => 47
  | supportsState => 48
  | rootState => 49
  | ownState => 50
  | startingState => 51
  | stateOperator => 52
  | stateAlias => 53
  | subElement => 60
  | selectorAffix => 61
  | atRule => 62

/-- Whether tokens of the kind carry no meaning, which are those of `whitespace`. -/
def isTrivia (k : TokenKind) : Bool := k == whitespace

/-- Whether the kind is one of the states that start with `@` and a keyword or a parenthesis. -/
def isAtState (k : TokenKind) : Bool :=
  [mediaState, containerState, supportsState, rootState, ownState, startingState].contains k

end TokenKind

/-! ## §2 Tokens -/

/-- A classified part of a text. A token that a lexer makes has as its text the slice of the
source from `start` to `stop`. -/
structure Token where
  kind : TokenKind
  text : Text
  start : Int
  stop : Int
  children : List Token
deriving Repr

namespace Token

/-- The offsets of the token as a span. They are integers, and `Span.ofBounds` refuses those that
form no range. -/
def span (t : Token) : Except Fault Span := Span.ofBounds t.start t.stop

/-- The text before an argument list and, for a colour, before an opacity suffix. `name(…)` and
`#name.50` are both named `name`, the colour with its sign. -/
def name (t : Token) : Text :=
  let head := t.text.upTo '('
  if t.kind == .colorToken then head.upTo '.' else head

mutual

/-- The token and what hangs below it, moved by some characters. The texts stay as they are. -/
def shift (delta : Int) : Token → Token
  | ⟨kind, text, start, stop, children⟩ =>
    ⟨kind, text, start + delta, stop + delta, shiftAll delta children⟩

/-- Tokens moved by some characters. -/
def shiftAll (delta : Int) : List Token → List Token
  | [] => []
  | t :: ts => shift delta t :: shiftAll delta ts

end

end Token

end StyleCheck
