import StyleCheck.Check.Bracket
import StyleCheck.Check.Rule
import StyleCheck.StateKey.Lexer
import StyleCheck.Settings
import StyleCheck.Style.Definitions
import StyleCheck.Suggestion

/-!
# Checking state keys

The rules look at the top-level tokens of a key. The balance of brackets is checked besides, on
the text of the key.

## Main definitions

- `StateKey.Context`: what the rules know besides the token.
- `StateKey.syntaxRule`, `StateKey.ownRule`, `StateKey.aliasRule`: the rules.
- `StateKey.findingsOfTokens`, `StateKey.findings`: what is found in tokens and in a key.
-/

namespace StyleCheck.StateKey

/-! ## §1 Context and rules -/

/-- What the rules know besides the token. -/
structure Context where
  /-- The offset of the key in the host file. -/
  base : Int
  settings : Settings
  definitions : Definitions
  /-- Whether the key stands inside a sub-element. -/
  insideSubElement : Bool := false

/-- The finding of an issue with a token. -/
def Context.find (context : Context) (token : Token) (issue : Issue) (suggestion : Option Text) :
    Except Fault (List Finding) :=
  (token.hostSpan context.base).map fun span => [{ issue, span, suggestion }]

/-- Every character belongs to some token of the grammar: a token of kind `.unknown` is an error. -/
def syntaxRule : Rule Context where
  code := Catalogue.invalidSyntax.code
  name := "stateSyntax".toText
  check context token :=
    if token.kind == .unknown then context.find token (.invalidSyntax token.text) none
    else .ok []

/-- Own-states stand inside sub-elements, which the context tells by `insideSubElement`. -/
def ownRule : Rule Context where
  code := Catalogue.ownOutsideSubElement.code
  name := "ownState".toText
  check context token :=
    if token.kind == .ownState && !context.insideSubElement then
      context.find token .ownOutsideSubElement none
    else .ok []

/-- An alias is configured or defined. The candidates for a suggestion are those of the settings in
order, then those of the file, sorted by `Text.sort`. -/
def aliasRule : Rule Context where
  code := Catalogue.unknownAlias.code
  name := "stateAlias".toText
  check context token :=
    let name := token.text
    let configured := context.settings.states
    if token.kind != .stateAlias || configured.contains name
        || context.definitions.hasState name then .ok []
    else context.find token (.unknownAlias name)
      (suggest? name (configured ++ Text.sort context.definitions.states))

/-- The rules for state keys, in the order in which they look at a token. -/
def defaultRules : List (Rule Context) := [syntaxRule, ownRule, aliasRule]

/-! ## §2 Running the rules -/

/-- What rules find in the top-level tokens of a key. What hangs below a token is not looked at;
`findingsOfTokens_flatten` shows that nothing is missed. -/
def findingsOfTokens (rules : List (Rule Context)) (context : Context) (tokens : List Token) :
    Except Fault (List Finding) :=
  (Rule.checkFamily .state rules).bind fun _ => Rule.runAll rules context tokens

/-- The aliases that the lexer is told: those of the settings and those of the file. -/
def Context.aliases (context : Context) : List Text :=
  context.settings.states ++ context.definitions.states

/-- Whether a key is exempt: the default state, and the keys of colours, which start with `#`. -/
def isExempt (key : Text) : Bool := key.isEmpty || key.head? == some '#'

/-- What is found in a state key: its brackets first, then its tokens. Brackets are read off the
text, so they are found also where no token is. -/
def findings (context : Context) (key : Text) : Except Fault (List Finding) :=
  if isExempt key then .ok []
  else do
    let brackets ← Bracket.findings context.base key
    let tokens ← findingsOfTokens defaultRules context (lex context.aliases key)
    .ok (brackets ++ tokens)

end StyleCheck.StateKey
