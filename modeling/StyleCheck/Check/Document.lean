import StyleCheck.Check.StateKey
import StyleCheck.Check.Value
import StyleCheck.Diagnostic.Report

/-!
# Checking documents

Walks the style objects of a file and checks every value and every state key in them. The walk
first lists what has to be checked, in the order in which it stands; the checks are then run one
after the other.

## Main definitions

- `Obligation`: one thing to check.
- `obligations`: what has to be checked in a forest.
- `Document.diagnostics`: the report on a forest, with given definitions.
- `Document.validate`: the report on a forest together with the definitions behind it.
-/

namespace StyleCheck

/-! ## §1 What has to be checked -/

/-- One thing to check, with its place in the host file. The walk over a file collects these, and
`Obligation.findings` checks one. -/
inductive Obligation
  /-- A value of a style property, or of none if the name is empty. -/
  | value (property text : Text) (start : Int)
  /-- A state key, or the meaning of an alias. -/
  | stateKey (insideSubElement : Bool) (key : Text) (start : Int)
  /-- The starting state in the place of a property. -/
  | startingProperty (key : StyleKey)
deriving DecidableEq, Repr

mutual

/-- What has to be checked in a state mapping under a property. -/
def mappingObligations (inside : Bool) (property : Text) : StyleEntries → List Obligation
  | [] => []
  | (key, value) :: entries =>
    mappingEntryObligations inside property key value
      ++ mappingObligations inside property entries

/-- What has to be checked in one entry of a state mapping. Of an alias definition that is the
meaning alone; of all others, the key and the value.

`inside` says whether a sub-element is around. -/
def mappingEntryObligations (inside : Bool) (property : Text) (key : StyleKey) :
    StyleValue → List Obligation
  | .unread => [.stateKey inside key.name key.start]
  | .text content start _ =>
    if StateKey.isAliasDefinition key.name content then [.stateKey inside content start]
    else [.stateKey inside key.name key.start, .value property content start]
  | .object entries _ _ =>
    .stateKey inside key.name key.start :: mappingObligations inside property entries

end

/-- The property under whose name a key's values are checked. Tokens have none, so `presetRule` and
`recipeRule` are silent there. -/
def propertyContext (name : Text) : Text := if isTokenName name then [] else name

mutual

/-- What has to be checked in a style object, which is `inside` of a sub-element or not. -/
def objectObligations (inside : Bool) : StyleEntries → List Obligation
  | [] => []
  | (key, value) :: entries =>
    entryObligations inside key value ++ objectObligations inside entries

/-- What has to be checked in one entry of a style object, by the role of its key.

Nothing below `@keyframes`, `@properties`, `@starting` and the lone `$` is checked; `@starting`
itself is, as it may not stand in the place of a property. -/
def entryObligations (inside : Bool) (key : StyleKey) : StyleValue → List Obligation
  | .unread =>
    match KeyRole.ofName key.name with
    | .starting => [.startingProperty key]
    | _ => []
  | .text content start _ =>
    match KeyRole.ofName key.name with
    | .starting => [.startingProperty key]
    | .state => [.stateKey inside content start]
    | .token | .property => [.value (propertyContext key.name) content start]
    | _ => []
  | .object entries _ _ =>
    match KeyRole.ofName key.name with
    | .subElement => objectObligations true entries
    | .nested | .state => objectObligations inside entries
    | .starting => [.startingProperty key]
    | .token | .property => mappingObligations inside (propertyContext key.name) entries
    | .keyframes | .properties | .affix => []

end

/-- What has to be checked in a forest, object after object. None of them is `inside` of a
sub-element. -/
def obligations (forest : Forest) : List Obligation :=
  forest.flatMap fun object => objectObligations false object.entries

/-! ## §2 Checking it -/

/-- What is found in one thing to check. -/
def Obligation.findings (settings : Settings) (definitions : Definitions) :
    Obligation → Except Fault (List Finding)
  | .value property text start =>
    Value.findings { base := start, property, settings, definitions } text
  | .stateKey insideSubElement key start =>
    StateKey.findings { base := start, settings, definitions, insideSubElement } key
  | .startingProperty key =>
    key.span.map fun span => [{ issue := .startingAsProperty, span }]

namespace Document

/-- What is found in a forest, in the order of the walk. -/
def findings (settings : Settings) (definitions : Definitions) (forest : Forest) :
    Except Fault (List Finding) :=
  ((obligations forest).mapM (Obligation.findings settings definitions)).map List.flatten

/-- The report on a forest, with given definitions: by range, without repetitions, as
`Diagnostic.report` makes it. -/
def diagnostics (settings : Settings) (definitions : Definitions) (forest : Forest) :
    Except Fault (List Diagnostic) :=
  (findings settings definitions forest).map fun found =>
    Diagnostic.report (found.map (·.diagnostic))

/-- The given definitions, or those of the forest if none are given. `Definitions.collect` fails
where a key forms no range. -/
def definitionsFor (forest : Forest) : Option Definitions → Except Fault Definitions
  | some definitions => .ok definitions
  | none => Definitions.collect forest

/-- What is handed over for validation. Only a `forest` is taken. -/
inductive Submission
  /-- The style objects of a file. -/
  | forest (objects : Forest)
  /-- A style object on its own, which is refused. -/
  | single (object : StyleObject)

/-- A report with the definitions that it rests on, which a caller may give to the next validation.
-/
structure Validation where
  diagnostics : List Diagnostic
  definitions : Definitions

/-- Whether the report holds an error. -/
def Validation.hasErrors (v : Validation) : Bool := Diagnostic.hasErrors v.diagnostics

/-- Checks the style objects of a file, after collecting their definitions unless some are given.
The checks themselves never see the difference. -/
def validate (settings : Settings) (given : Option Definitions) :
    Submission → Except Fault Validation
  | .single _ => .error .singleStyleObject
  | .forest objects => do
    let definitions ← definitionsFor objects given
    let diagnostics ← diagnostics settings definitions objects
    .ok { diagnostics, definitions }

end Document

end StyleCheck
