import StyleCheck.Diagnostic.Catalogue

/-!
# Findings

A finding is a diagnostic before it is put into words: what is wrong, as data, with its range and
the name that was probably meant. The checks produce findings, and `Finding.diagnostic` words them
by the catalogue.

## Main definitions

- `Issue`: what can be wrong, with the particulars.
- `Finding`: an issue at a range.
- `Finding.diagnostic`: its wording.
-/

namespace StyleCheck

/-- What can be wrong in a style. An issue carries its particulars, and `Issue.spec` says how it is
worded. -/
inductive Issue
  | unknownColorToken (name : Text)
  | unknownCustomProperty (name : Text)
  | unknownUnit (name : Text)
  | unknownPreset (name : Text)
  | unknownRecipe (name : Text)
  | unknownFunction (name : Text)
  | invalidOpacity (digits : Text)
  | invalidSyntax (text : Text)
  | unmatchedBracket (closer opener : CodePoint)
  | mismatchedBracket (closer expected opener : CodePoint) (position : Nat)
  | unclosedBracket (opener closer : CodePoint)
  | ownOutsideSubElement
  | unknownAlias (name : Text)
  | startingAsProperty
deriving DecidableEq, Repr

namespace Issue

/-- The spec of an issue. -/
def spec : Issue → Diagnostic.Spec
  | unknownColorToken _ => Catalogue.unknownColorToken
  | unknownCustomProperty _ => Catalogue.unknownCustomProperty
  | unknownUnit _ => Catalogue.unknownUnit
  | unknownPreset _ => Catalogue.unknownPreset
  | unknownRecipe _ => Catalogue.unknownRecipe
  | unknownFunction _ => Catalogue.unknownFunction
  | invalidOpacity _ => Catalogue.invalidOpacity
  | invalidSyntax _ => Catalogue.invalidSyntax
  | unmatchedBracket .. => Catalogue.unmatchedBracket
  | mismatchedBracket .. => Catalogue.mismatchedBracket
  | unclosedBracket .. => Catalogue.unclosedBracket
  | ownOutsideSubElement => Catalogue.ownOutsideSubElement
  | unknownAlias _ => Catalogue.unknownAlias
  | startingAsProperty => Catalogue.startingAsProperty

/-- The particulars of an issue, by the names that the catalogue gives them: those of the holes in
the message of its `spec`. -/
def fields : Issue → List (Text × Text)
  | unknownColorToken name | unknownCustomProperty name | unknownUnit name | unknownPreset name
  | unknownRecipe name | unknownFunction name | unknownAlias name => [("name".toText, name)]
  | invalidOpacity digits => [("value".toText, digits)]
  | invalidSyntax text => [("text".toText, text)]
  | unmatchedBracket closer opener => [("closer".toText, [closer]), ("opener".toText, [opener])]
  | mismatchedBracket closer expected opener position =>
    [("closer".toText, [closer]), ("expected".toText, [expected]), ("opener".toText, [opener]),
     ("position".toText, Text.decimal position)]
  | unclosedBracket opener closer => [("opener".toText, [opener]), ("closer".toText, [closer])]
  | ownOutsideSubElement | startingAsProperty => []

end Issue

/-- An issue at a range of the host file, perhaps with the name that was probably meant. What
`Rule.check` comes to is a list of these. -/
structure Finding where
  issue : Issue
  span : Span
  suggestion : Option Text := none
deriving DecidableEq, Repr

/-- The diagnostic that words a finding. -/
def Finding.diagnostic (f : Finding) : Diagnostic :=
  f.issue.spec.report f.span f.suggestion (Diagnostic.Spec.fieldValue f.issue.fields)

end StyleCheck
