import StyleCheck.Text.Quoted

/-!
# Faults

The ways in which an operation of this library can fail. A style that breaks the rules of the
grammar is no fault: it is answered by diagnostics. Faults are misuse by the caller (positions
that form no range, a rule registered in the wrong family, names that were left out), numbers
beyond the limits up to which numerals are read and characters are looked up, and what the system
refuses: calls nested too deep, paths that it does not take, readers that are broken off.

## Main definitions

- `Fault`: the causes.
- `Fault.message`: the wording of each cause.
- `digitLimit`: how many digits a numeral may have.
- `leastIndex`: how far back characters are looked up.
-/

namespace StyleCheck

/-- The two families of rules. -/
inductive RuleFamily
  | value
  | state
deriving DecidableEq, Repr

/-- Causes of failure. -/
inductive Fault
  /-- A range would start or end before the text. -/
  | negativePosition
  /-- A range would end before it starts. -/
  | invertedRange
  /-- A cursor was moved so far back that no character stands there. -/
  | outsideSource
  /-- A cursor was moved so far back that characters are not even looked up there. -/
  | belowIndexRange
  /-- A decimal numeral has more digits than are read. -/
  | numeralTooLong (digits : Nat)
  /-- A message template asks for a field that was not given. -/
  | missingField (name : Text)
  /-- A rule's code does not carry the mark of the family it was registered in. -/
  | misplacedRule (family : RuleFamily) (name code : Text)
  /-- A single style object was passed where a list of them is expected. -/
  | singleStyleObject
  /-- Validation was asked for a document that is not open. -/
  | documentNotOpen (uri : Text)
  /-- A base is the working directory, of which there is nothing, not even a name. -/
  | namelessPath
  /-- A document that is to be merged is no mapping. -/
  | notMapping
  /-- A name that is to be looked up was left out. -/
  | missingName
  /-- Calls would be nested deeper than the system lets them. -/
  | callsTooDeep (activity : Text)
  /-- The system takes a path for no path at all. -/
  | pathRefused (reason : Text)
  /-- The system does not tell what a path leads to. -/
  | lookupRefused (reason : Text)
  /-- A reader that was plugged in was broken off, and everything around it as well. -/
  | readerBrokenOff (reason : Text)
deriving DecidableEq, Repr

/-- Decimal numerals with more digits than this are not read; reading one is a
`Fault.numeralTooLong`. -/
def digitLimit : Nat := 4300

/-- Characters are looked up by indices of 64 bits, of which this is the least. Below it, a look-up
is a `Fault.belowIndexRange`. -/
def leastIndex : Int := -0x8000000000000000

namespace RuleFamily

/-- The word for the family at the start of a sentence. -/
def title : RuleFamily → Text
  | .value => "Value".toText
  | .state => "State".toText

/-- What the codes of the family begin with. A rule whose code does not is a `Fault.misplacedRule`.
-/
def codeMark : RuleFamily → Text
  | .value => "VALUE_".toText
  | .state => "STATE_".toText

end RuleFamily

/-- The wording of a fault. -/
def Fault.message : Fault → Text
  | .negativePosition => "TextRange positions cannot be negative".toText
  | .invertedRange => "TextRange invariant violated: start > end".toText
  | .outsideSource => "string index out of range".toText
  | .belowIndexRange => "cannot fit 'int' into an index-sized integer".toText
  | .numeralTooLong digits =>
    ("Exceeds the limit (4300 digits) for integer string conversion: value has ".toText
      ++ Text.decimal digits
      ++ " digits; use sys.set_int_max_str_digits() to increase the limit".toText)
  | .missingField name => Text.quoted name
  | .misplacedRule family name code =>
    (family.title ++ " rule `".toText ++ name ++ "` has invalid code `".toText ++ code
      ++ "`; expected `".toText ++ family.codeMark ++ "` prefix.".toText)
  | .singleStyleObject =>
    "run_validation expects a sequence of style objects, not a single StyleObject".toText
  | .documentNotOpen uri => "Document `".toText ++ uri ++ "` is not open".toText
  | .namelessPath => "PosixPath('.') has an empty name".toText
  | .notMapping => "'NoneType' object has no attribute 'tokens'".toText
  | .missingName => "unhashable type: 'list'".toText
  | .callsTooDeep activity => "maximum recursion depth exceeded".toText ++ activity
  | .pathRefused reason | .lookupRefused reason | .readerBrokenOff reason => reason

end StyleCheck
