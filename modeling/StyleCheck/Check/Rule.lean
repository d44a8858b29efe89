import StyleCheck.Diagnostic.Finding
import StyleCheck.Token

/-!
# Rules

A rule looks at one token at a time. Rules come in two families, one for values and one for state
keys, and the code of a rule shows its family.

## Main definitions

- `Rule`: a rule over some context.
- `Rule.checkFamily`: refuses a rule that does not belong to a family.
- `Rule.runAll`: what rules find in tokens.
-/

namespace StyleCheck

/-- A check on single tokens. The `Context` holds what a rule knows besides the token, for values
and for state keys. -/
structure Rule (Context : Type) where
  code : Text
  name : Text
  check : Context → Token → Except Fault (List Finding)

namespace Rule

/-- A rule that finds nothing. -/
def silent {Context : Type} (code name : Text) : Rule Context where
  code := code
  name := name
  check _ _ := .ok []

/-- Whether the code of a rule shows that it belongs to a family. -/
def belongsTo {Context : Type} (family : RuleFamily) (rule : Rule Context) : Bool :=
  family.codeMark.isPrefixOf rule.code

/-- Refuses the first rule that does not belong to the family, with a `Fault.misplacedRule`. -/
def checkFamily {Context : Type} (family : RuleFamily) (rules : List (Rule Context)) :
    Except Fault Unit :=
  match rules.find? (!·.belongsTo family) with
  | some rule => .error (.misplacedRule family rule.name rule.code)
  | none => .ok ()

/-- What the rules find in one token, rule after rule. The first fault ends the run. -/
def runOn {Context : Type} (rules : List (Rule Context)) (context : Context) (token : Token) :
    Except Fault (List Finding) :=
  (rules.mapM fun (rule : Rule Context) => rule.check context token).map List.flatten

/-- What the rules find in the tokens, token after token. -/
def runAll {Context : Type} (rules : List (Rule Context)) (context : Context)
    (tokens : List Token) : Except Fault (List Finding) :=
  (tokens.mapM (runOn rules context)).map List.flatten

end Rule

/-- The range of a token of a text that stands at an offset `base` of the host file. -/
def Token.hostSpan (base : Int) (token : Token) : Except Fault Span :=
  token.span.bind (·.shift base)

end StyleCheck
