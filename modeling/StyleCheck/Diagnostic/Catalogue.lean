import StyleCheck.Diagnostic

/-!
# The catalogue of diagnostics

One spec for each code. Codes of the value checks and of the state checks are told apart by how
they begin.
-/

namespace StyleCheck.Catalogue

open Diagnostic (Spec)

/-! ## §1 Building blocks -/

/-- Fixed words of a message. -/
def words (s : String) : Template.Part := .words s.toText

/-- A hole of a message. -/
def hole (s : String) : Template.Part := .hole s.toText

/-- A warning about a value, with a hint. Its code begins with the mark of `RuleFamily.value`. -/
def valueWarning (code : String) (message : Template) (hint : String) : Spec where
  code := code.toText
  message := message
  hint := some hint.toText
  severity := .warning
  category := some "value".toText

/-- A warning about a state, with a hint. Its code begins with the mark of `RuleFamily.state`. -/
def stateWarning (code : String) (message : Template) (hint : String) : Spec where
  code := code.toText
  message := message
  hint := some hint.toText
  severity := .warning
  category := some "state".toText

/-- An error in a state. Only checks of states have errors. -/
def stateError (code : String) (message : Template) : Spec where
  code := code.toText
  message := message
  severity := .error
  category := some "state".toText

/-! ## §2 Values -/

/-- A colour that is neither configured nor defined. -/
def unknownColorToken : Spec :=
  valueWarning "VALUE_UNKNOWN_COLOR_TOKEN"
    [words "Unknown color token '", hole "name", words "'"]
    "Declare the token in `tokens` of tasty.config or define it in this file."

/-- A custom property that is neither configured nor defined. -/
def unknownCustomProperty : Spec :=
  valueWarning "VALUE_UNKNOWN_CUSTOM_PROPERTY"
    [words "Unknown custom property '", hole "name", words "'"]
    "Declare the property in `tokens` of tasty.config or define it in this file."

/-- A unit that nobody knows. -/
def unknownUnit : Spec :=
  valueWarning "VALUE_UNKNOWN_UNIT" [words "Unknown unit '", hole "name", words "'"]
    "Add the unit to `units` of tasty.config."

/-- A word under the preset property that is no preset. -/
def unknownPreset : Spec :=
  valueWarning "VALUE_UNKNOWN_PRESET"
    [words "Unknown preset or modifier '", hole "name", words "'"]
    "Add the preset to `presets` of tasty.config."

/-- A word under the recipe property that is no recipe. -/
def unknownRecipe : Spec :=
  valueWarning "VALUE_UNKNOWN_RECIPE" [words "Unknown recipe '", hole "name", words "'"]
    "Add the recipe to `recipes` of tasty.config."

/-- A call of a function that nobody knows. -/
def unknownFunction : Spec :=
  valueWarning "VALUE_UNKNOWN_FUNCTION" [words "Unknown function '", hole "name", words "'"]
    "Use a CSS function or add it to `funcs` of tasty.config."

/-- An opacity beyond one hundred per cent. -/
def invalidOpacity : Spec :=
  valueWarning "VALUE_INVALID_OPACITY"
    [words "Invalid opacity value '", hole "value", words "'. Opacity should be 0-100"]
    "Use `.5` for 50% or `.05` for 5%."

/-! ## §3 States -/

/-- A character that no rule of state keys covers. -/
def invalidSyntax : Spec :=
  stateError "STATE_INVALID_SYNTAX" [words "Invalid state key syntax at '", hole "text", words "'"]

/-- A closing bracket without an opening one. -/
def unmatchedBracket : Spec :=
  stateError "STATE_UNMATCHED_BRACKET"
    [words "Unmatched '", hole "closer", words "' - no opening '", hole "opener", words "'"]

/-- A closing bracket of the wrong sort. -/
def mismatchedBracket : Spec :=
  stateError "STATE_MISMATCHED_BRACKET"
    [words "Mismatched '", hole "closer", words "' - expected '", hole "expected",
     words "' to close '", hole "opener", words "' at position ", hole "position"]

/-- An opening bracket that is never closed. -/
def unclosedBracket : Spec :=
  stateError "STATE_UNCLOSED_BRACKET"
    [words "Unclosed '", hole "opener", words "' - missing '", hole "closer", words "'"]

/-- An own-state outside every sub-element. -/
def ownOutsideSubElement : Spec :=
  stateWarning "STATE_OWN_OUTSIDE_SUB_ELEMENT"
    [words "'@own(...)' should only be used inside sub-element style blocks"]
    "At root level, use the inner condition directly."

/-- An alias that is neither configured nor defined. -/
def unknownAlias : Spec :=
  stateWarning "STATE_UNKNOWN_ALIAS" [words "Unknown state alias '", hole "name", words "'"]
    "Declare the alias in `states` of tasty.config or define it in this file."

/-- The starting state in the place of a style property. -/
def startingAsProperty : Spec :=
  stateWarning "STATE_STARTING_AS_PROPERTY" [words "'@starting' is a state, not a property"]
    "Use it as a state key inside a property mapping: `\x7b '': ..., '@starting': ... \x7d`."

/-- All specs, in the order of their codes. -/
def all : List Spec :=
  [invalidSyntax, mismatchedBracket, ownOutsideSubElement, startingAsProperty, unclosedBracket,
   unknownAlias, unmatchedBracket, invalidOpacity, unknownColorToken, unknownCustomProperty,
   unknownFunction, unknownPreset, unknownRecipe, unknownUnit]

/-- The spec of a code. -/
def find? (code : Text) : Option Spec := all.find? fun spec => spec.code = code

end StyleCheck.Catalogue
