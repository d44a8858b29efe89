import StyleCheck.Text.DecimalDigit

/-!
# Requests on the command line

A request names one text and how to lex it. Options may stand before and behind the text. The name
of an option may be shortened as long as no other option starts with the same letters, and its
value stands in the next argument or behind an equals sign. Two hyphens alone end the options; they
are no value, so that an option with them behind its equals sign is left without a name.

Not everything that starts with a hyphen is an option: a hyphen alone, a negative number, and an
argument with a space in it are texts.

## Main definitions

- `Request`: what is to be lexed, and how.
- `Request.lacksName`: whether a name is missing that has to be looked up.
- `Argument`, `Argument.ofText`: what a single argument is.
- `Request.parse`: the request that arguments make.
-/

namespace StyleCheck

/-! ## §1 Requests -/

/-- The grammars that a text can be lexed with. -/
inductive Grammar
  | value
  | state
  | affix
deriving DecidableEq, Repr

/-- The options that take a value. -/
inductive RequestOption
  | mode
  | token
  | unit
  | preset
  | state
deriving DecidableEq, Repr

/-- The options whose names are looked up with a grammar. Permitted tokens play no part in any, so
`.token` is in none of the lists. -/
def Grammar.lookups : Grammar → List RequestOption
  | .value => [.unit, .preset]
  | .state => [.state]
  | .affix => []

/-- What is to be lexed, and what the project knows. -/
structure Request where
  text : Text
  grammar : Grammar := .value
  tokens : List Text := []
  units : List Text := []
  presets : List Text := []
  states : List Text := []
  /-- The options that were left without a name. -/
  nameless : List RequestOption := []
deriving DecidableEq, Repr

/-- Whether a name is missing that the grammar of a request would look up. -/
def Request.lacksName (r : Request) : Bool := r.nameless.any r.grammar.lookups.contains

/-- Why arguments make no request. -/
inductive Refusal
  /-- Help was asked for. -/
  | help
  /-- The arguments do not fit together. -/
  | misuse
deriving DecidableEq, Repr

/-! ## §2 Arguments -/

/-- What a single argument is. -/
inductive Argument
  /-- The text to lex, or the value of an option. -/
  | operand
  /-- An option, perhaps with its value behind an equals sign. -/
  | option (option : RequestOption) (value : Option Text)
  /-- A call for help; it is not plain if something hangs on it that help does not take. -/
  | help (plain : Bool)
  /-- An option that nobody knows. -/
  | unknown
  /-- A shortened name that fits several options. -/
  | ambiguous
deriving DecidableEq, Repr

/-- The names of the options; the one without an option behind it calls for `help`. -/
def optionNames : List (Text × Option RequestOption) :=
  [("--help".toText, none), ("--mode".toText, some .mode), ("--token".toText, some .token),
   ("--unit".toText, some .unit), ("--preset".toText, some .preset),
   ("--state".toText, some .state)]

namespace Argument

/-- Whether an argument is a negative number: a hyphen and digits of any script, perhaps with a
point among them or before them. One line break behind it is no matter. -/
def isNegativeNumber (argument : Text) : Bool :=
  match Text.dropFinalNewline argument with
  | '-' :: number =>
    let whole := number.takeWhile Text.isDecimalDigit
    match number.drop whole.length with
    | [] => !whole.isEmpty
    | '.' :: decimals => !decimals.isEmpty && decimals.all Text.isDecimalDigit
    | _ => false
  | _ => false

/-- What an argument is that starts with a hyphen and names no option. -/
def ofUnnamed (argument : Text) : Argument :=
  if isNegativeNumber argument || argument.contains ' ' then .operand else .unknown

/-- What an argument with two hyphens in front is. A name may be shortened as long as it fits one of
the `optionNames`. -/
def ofLong (argument : Text) : Argument :=
  let name := Text.upTo '=' argument
  let value := (argument.drop name.length).tail?
  match optionNames.filter fun e => name.isPrefixOf e.1 with
  | [] => ofUnnamed argument
  | [(_, some chosen)] => .option chosen value
  | [(_, none)] => .help value.isNone
  | _ => .ambiguous

/-- Whether a call for help by one letter is plain, given what follows the letter: the letter may
only be repeated, perhaps behind an equals sign. -/
def isPlainCluster (letters : Text) : Bool :=
  match letters with
  | '=' :: repeated => !repeated.isEmpty && repeated.all (· == 'h')
  | repeated => repeated.all (· == 'h')

/-- What an argument is. -/
def ofText (argument : Text) : Argument :=
  match argument with
  | '-' :: '-' :: _ => ofLong argument
  -- Help is the only option with a name of one letter.
  | '-' :: 'h' :: letters => .help (isPlainCluster letters)
  | '-' :: _ :: _ => ofUnnamed argument
  | _ => .operand

end Argument

/-! ## §3 Reading arguments -/

namespace Request

/-- What is known of a request before all arguments are read. The text may be missing. -/
structure Partial where
  text : Option Text := none
  request : Request := { text := [] }
  /-- Whether some argument had no place. -/
  surplus : Bool := false

/-- A grammar by its name. -/
def grammarOf? (name : Text) : Option Grammar :=
  if name = "value".toText then some .value
  else if name = "state".toText then some .state
  else if name = "affix".toText then some .affix
  else none

/-- The end of the options, `--`. -/
def endMark : Text := ['-', '-']

/-- A request with an option left without a name; a grammar without a name is that of affixes. -/
def leaveNameless (r : Request) : RequestOption → Request
  | .mode => { r with grammar := .affix }
  | option => { r with nameless := r.nameless ++ [option] }

/-- A request with an option set to a name. The `grammar` is replaced, and all other names add up.
-/
def setNamed (r : Request) (option : RequestOption) (value : Text) : Option Request :=
  match option with
  | .mode => (grammarOf? value).map fun grammar => { r with grammar }
  | .token => some { r with tokens := r.tokens ++ [value] }
  | .unit => some { r with units := r.units ++ [value] }
  | .preset => some { r with presets := r.presets ++ [value] }
  | .state => some { r with states := r.states ++ [value] }

/-- A request with an option set to a value. The `endMark` names nothing. -/
def set (r : Request) (option : RequestOption) (value : Text) : Option Request :=
  if value = endMark then some (r.leaveNameless option) else r.setNamed option value

namespace Partial

/-- The request, if everything had its place. -/
def finish (p : Partial) : Except Refusal Request :=
  match p.text with
  | some text => if p.surplus then .error .misuse else .ok { p.request with text }
  | none => .error .misuse

/-- With an option set. -/
def set (p : Partial) (option : RequestOption) (value : Text) : Except Refusal Partial :=
  match p.request.set option value with
  | some request => .ok { p with request }
  | none => .error .misuse

/-- With an operand, which is the text if there is none yet. -/
def addOperand (p : Partial) (operand : Text) : Partial :=
  match p.text with
  | none => { p with text := some operand }
  | some _ => { p with surplus := true }

end Partial

/-- The request after the arguments behind the end of the options: the text, if it is still
missing, and nothing else. -/
def afterOptions (p : Partial) (arguments : List Text) : Except Refusal Request :=
  match p.text, arguments with
  | none, [text] => (p.addOperand text).finish
  | _, _ => .error .misuse

/-- Reads arguments one after the other. An `endMark` right behind the text may have nothing behind
it. -/
def readArguments (p : Partial) (arguments : List Text) : Except Refusal Request :=
  match arguments with
  | [] => p.finish
  | argument :: rest =>
    if argument = endMark then afterOptions p rest
    else match Argument.ofText argument with
      | .operand =>
        -- An end mark behind the text belongs to it only if nothing follows.
        if rest = [endMark] ∧ p.text = none then (p.addOperand argument).finish
        else readArguments (p.addOperand argument) rest
      | .option option (some value) => do readArguments (← p.set option value) rest
      | .option option none =>
        -- The value is the next argument, which must not look like an option itself.
        match rest with
        | [] => .error .misuse
        | value :: rest =>
          if value ≠ endMark ∧ Argument.ofText value = .operand then do
            readArguments (← p.set option value) rest
          else .error .misuse
      | .help plain => .error (if plain then .help else .misuse)
      | .unknown => readArguments { p with surplus := true } rest
      | .ambiguous => .error .misuse

/-- The request that arguments make. Shortened names that fit several options are refused before
anything else. -/
def parse (arguments : List Text) : Except Refusal Request :=
  let options := arguments.takeWhile (· ≠ endMark)
  if options.any fun argument => Argument.ofText argument = .ambiguous then .error .misuse
  else readArguments {} arguments

end Request

end StyleCheck
