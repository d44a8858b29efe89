import StyleCheck.Check.Rule
import StyleCheck.Style.Definitions
import StyleCheck.Suggestion
import StyleCheck.Text.DecimalDigit
import StyleCheck.Token.Walk
import StyleCheck.Value.Lexer

/-!
# Checking style values

Every rule looks at every token of a value, the arguments of calls included. A category whose
names are not limited is not checked. Offsets in a value are moved by the offset at which the value
stands in the host file.

## Main definitions

- `Value.Context`: what the rules know besides the token.
- `Value.opacityRule` and its neighbours, `Value.defaultRules`: the rules.
- `Value.findingsOfTokens`, `Value.findings`: what the rules find in tokens and in a text.
-/

namespace StyleCheck.Value

/-! ## §1 Context -/

/-- What the rules know besides the token. -/
structure Context where
  /-- The offset of the value in the host file. -/
  base : Int
  /-- The style property whose value it is, empty outside of one. -/
  property : Text
  settings : Settings
  definitions : Definitions

/-- The finding of an issue with a token. -/
def Context.find (context : Context) (token : Token) (issue : Issue) (suggestion : Option Text) :
    Except Fault (List Finding) :=
  (token.hostSpan context.base).map fun span => [{ issue, span, suggestion }]

/-! ## §2 Opacity -/

/-- The digits of an opacity suffix: those at the end of the text, if a point stands before them.

One line break behind them is no matter, and digits of any script count, as `isDecimalDigit` says.
-/
def opacityDigits? (text : Text) : Option Text :=
  let reversed := (Text.dropFinalNewline text).reverse
  let digits := (reversed.takeWhile Text.isDecimalDigit).reverse
  if digits.isEmpty then none
  else if (reversed.dropWhile Text.isDecimalDigit).head? == some '.' then some digits
  else none

/-- The percentage that opacity digits stand for. A single digit counts tens. More digits than
`digitLimit` are not read. -/
def opacityPercent (digits : Text) : Except Fault Nat :=
  if digitLimit < digits.length then .error (.numeralTooLong digits.length)
  else if digits.length = 1 then .ok (10 * Text.numeralValue digits)
  else .ok (Text.numeralValue digits)

/-- The opacity of a colour is at most one hundred per cent. It needs nothing but the token. -/
def opacityRule : Rule Context where
  code := Catalogue.invalidOpacity.code
  name := "opacity".toText
  check context token :=
    if token.kind != .colorToken then .ok []
    else match opacityDigits? token.text with
      | none => .ok []
      | some digits => (opacityPercent digits).bind fun percent =>
        if percent ≤ 100 then .ok [] else context.find token (.invalidOpacity digits) none

/-! ## §3 Tokens of the project -/

/-- The known tokens whose names start with a `sigil`: the permitted ones in order, then those
defined in the file, sorted. -/
def knownTokens (sigil : CodePoint) (permitted : List Text) (definitions : Definitions) :
    List Text :=
  permitted.filter (·.head? == some sigil)
    ++ Text.sort (definitions.tokens.filter (·.head? == some sigil))

/-- A colour is reserved, permitted or defined. Nothing is checked where the tokens are `.anything`.
-/
def colorTokenRule : Rule Context where
  code := Catalogue.unknownColorToken.code
  name := "colorToken".toText
  check context token :=
    match token.kind, context.settings.tokens with
    | .colorToken, .only permitted =>
      let name := token.name
      if Vocabulary.reservedColorTokens.contains name || permitted.contains name
          || context.definitions.hasToken name then .ok []
      else context.find token (.unknownColorToken name)
        (suggest? name (knownTokens '#' permitted context.definitions))
    | _, _ => .ok []

/-- A custom property is permitted or defined. It shares the list `tokens` with the colours. -/
def customPropertyRule : Rule Context where
  code := Catalogue.unknownCustomProperty.code
  name := "customProperty".toText
  check context token :=
    match token.kind, context.settings.tokens with
    | .customProperty, .only permitted =>
      let name := token.text
      if permitted.contains name || context.definitions.hasToken name then .ok []
      else context.find token (.unknownCustomProperty name)
        (suggest? name (knownTokens '$' permitted context.definitions))
    | _, _ => .ok []

/-! ## §4 Units -/

/-- What stands behind the sign, digits and points at the start of a number. -/
def unitOf (text : Text) : Text :=
  let unsigned := match text with
    | '+' :: cs | '-' :: cs => cs
    | cs => cs
  unsigned.dropWhile fun c => c == '.' || Text.isDecimalDigit c

/-- The unit of a number is built in or permitted. The lexer has set aside the units of
`Vocabulary.cssUnits`. -/
def unitRule : Rule Context where
  code := Catalogue.unknownUnit.code
  name := "unit".toText
  check context token :=
    match token.kind, context.settings.units with
    | .customUnit, .only permitted =>
      let unit := unitOf token.text
      if unit.isEmpty || permitted.contains unit || Vocabulary.builtInUnits.contains unit then
        .ok []
      else context.find token (.unknownUnit unit)
        (suggest? unit (permitted ++ Vocabulary.builtInUnits))
    | _, _ => .ok []

/-! ## §5 Words -/

/-- A word under the property `preset` is a preset, a modifier or a global value. Nothing is checked
in a project without presets. -/
def presetRule : Rule Context where
  code := Catalogue.unknownPreset.code
  name := "preset".toText
  check context token :=
    let presets := context.settings.presets
    let name := token.text
    if context.property != "preset".toText || token.kind != .identifier || presets.isEmpty then
      .ok []
    else if presets.contains name || Vocabulary.presetModifiers.contains name
        || Vocabulary.cssGlobalValues.contains name then .ok []
    else context.find token (.unknownPreset name)
      (suggest? name (presets ++ Vocabulary.presetModifiers))

/-- A word under the property `recipe` is a recipe or a global value. Nothing is checked in a
project without recipes, and presets are no words to the lexer, so they are never asked about. -/
def recipeRule : Rule Context where
  code := Catalogue.unknownRecipe.code
  name := "recipe".toText
  check context token :=
    let recipes := context.settings.recipes
    let name := token.text
    if context.property != "recipe".toText || token.kind != .identifier || recipes.isEmpty then
      .ok []
    else if recipes.contains name || Vocabulary.cssGlobalValues.contains name then .ok []
    else context.find token (.unknownRecipe name) (suggest? name recipes)

/-- A function belongs to the style sheet language or is permitted. `Token.name` is the name in
front of the bracket. -/
def functionRule : Rule Context where
  code := Catalogue.unknownFunction.code
  name := "function".toText
  check context token :=
    match token.kind, context.settings.funcs with
    | .function, .only permitted =>
      let name := token.name
      if Vocabulary.cssFunctions.contains name || permitted.contains name then .ok []
      else context.find token (.unknownFunction name)
        (suggest? name (permitted ++ Vocabulary.cssFunctions))
    | _, _ => .ok []

/-! ## §6 Running the rules -/

/-- The rules for values, in the order in which they look at a token. -/
def defaultRules : List (Rule Context) :=
  [opacityRule, colorTokenRule, customPropertyRule, unitRule, presetRule, recipeRule, functionRule]

/-- What rules find in a token tree, a token before its children. -/
def findingsOfTokens (rules : List (Rule Context)) (context : Context) (tokens : List Token) :
    Except Fault (List Finding) :=
  (Rule.checkFamily .value rules).bind fun _ => Rule.runAll rules context (Token.flatten tokens)

/-- What the default rules find in a value. -/
def findings (context : Context) (text : Text) : Except Fault (List Finding) :=
  findingsOfTokens defaultRules context (lex (Lexicon.ofSettings context.settings) text)

end StyleCheck.Value
