import StyleCheck.StateKey.Shape
import StyleCheck.Text.Scan
import StyleCheck.Text.Sparse
import StyleCheck.Token
import StyleCheck.Vocabulary

/-!
# Lexing state keys

Turns the key of a conditional style, such as `hovered & !disabled`, `@media(w < 768px)` or
`:has(Body > Row)`, into tokens. Operators and grouping parentheses come as a flat stream. Some
states carry a body in parentheses, which is read by a grammar of its own and keeps only the
tokens that it knows; they hang below the state's token.

## Main definitions

- `StateKey.Body`: the three grammars of bodies.
- `StateKey.Lexeme.read`: the first token of a key at a position.
- `StateKey.lex`: the tokens of a key.
-/

namespace StyleCheck.StateKey

open Text

/-! ## §1 Shared forms -/

/-- Combinators of selectors. -/
def isCombinator (c : CodePoint) : Bool := ">+~".toText.contains c

/-- What comparisons start with. -/
def isComparison (c : CodePoint) : Bool := "<>=".toText.contains c

/-- An equals sign that follows a comparison directly, as in `<=`. -/
def comparisonTail : Text → Text
  | '=' :: _ => ['=']
  | _ => []

/-- The colon that makes a pseudo-element of a pseudo-class, as in `::before`. -/
def secondColon : Text → Text
  | ':' :: _ => [':']
  | _ => []

/-- What follows the first colon of a pseudo-class, with its argument unread: a second colon and a
name. -/
def pseudoName (cs : Text) : Text :=
  let colon := secondColon cs
  colon ++ dashedName (cs.drop colon.length)

/-- What follows the first colon of a pseudo-class, with its argument as plain text: a bracketed
`group` or nothing. -/
def pseudoTail (cs : Text) : Text :=
  let head := pseudoName cs
  head ++ group '(' ')' (cs.drop head.length)

/-- What follows the opening bracket of an attribute selector, through the bracket that closes it,
as `groupTail` has it. -/
def attributeTail (cs : Text) : Text := groupTail '[' ']' 1 cs

/-- What follows the first character of a modifier: the rest of its name and, behind an equals sign,
a quoted value or a name.

Whether a backslash `escapes` in a quoted value depends on the place: it does so in the key, and not
in a body. -/
def modifier (escapes : Bool) (cs : Text) : TokenKind × Text :=
  let name := dashedName cs
  match cs.drop name.length with
  | '=' :: value =>
    let valueText := match value with
      | '"' :: r => '"' :: (if escapes then quotedTail '"' r else plainQuotedTail '"' r)
      | '\'' :: r => '\'' :: (if escapes then quotedTail '\'' r else plainQuotedTail '\'' r)
      | _ => dashedName value
    (.valueMod, name ++ CodePoint.char '=' :: valueText)
  | _ => (.booleanMod, name)

/-- A character of a unit in a query. -/
def isQueryUnitChar (c : CodePoint) : Bool := isLetter c || c == '%'

/-- A number in a query, with letters or percent signs as its unit. The character `c` is the first
of its numeral. -/
def queryNumber (c : CodePoint) (cs : Text) : TokenKind × Text :=
  let numeral := (unsignedNumeral (c :: cs)).drop 1
  let unit := (cs.drop numeral.length).takeWhile isQueryUnitChar
  (if unit.isEmpty then .number else .cssUnit, numeral ++ unit)

/-! ## §2 Bodies -/

/-- The grammars of bodies. -/
inductive Body
  /-- Selectors, as in `:has(Body > Row)`. -/
  | selector
  /-- Media and feature queries, whose words are plain. -/
  | query
  /-- Conditions on modifiers, as in `@root(theme=dark)`. -/
  | condition
deriving DecidableEq, Repr

/-- The token that starts at a character of a selector. It gives the kind and the further
characters, as `sparse` asks for them. -/
def selectorToken (c : CodePoint) (cs : Text) : Option (TokenKind × Text) :=
  if isCombinator c then some (.stateOperator, [])
  else if c == ',' then some (.punctuation, [])
  else if c == ':' then some (.pseudoClass, pseudoTail cs)
  else if c == '.' then some (.classSelector, dashedName cs)
  else if c == '[' then some (.attrSelector, attributeTail cs)
  else if isNameStart c then
    some (if isSubElement [c] then .subElement else .booleanMod, dashedName cs)
  else none

/-- The token that starts at a character of a query or of a condition. The two differ in what a
`word` is. -/
def conditionToken (word : Text → TokenKind × Text) (c : CodePoint) (cs : Text) :
    Option (TokenKind × Text) :=
  if isComparison c then some (.stateOperator, comparisonTail cs)
  else if isLogicalOperator c then some (.stateOperator, [])
  else if c == ',' then some (.punctuation, [])
  else if startsUnsigned (c :: cs) then some (queryNumber c cs)
  else if isNameStart c then some (word cs)
  else none

/-- The token, if any, that starts at a character of a body; where there is none, the character is
skipped. -/
def Body.token? : Body → CodePoint → Text → Option (TokenKind × Text)
  | .selector => selectorToken
  | .query => conditionToken fun cs => (.identifier, dashedName cs)
  | .condition => conditionToken (modifier false)

/-! ## §3 Tokens of a key -/

/-- The first token of a key: its kind, its characters after the first one, and its `children`,
which only a body has. -/
structure Lexeme where
  kind : TokenKind
  tail : Text
  children : List Token := []

namespace Lexeme

/-- A token without children, from a `Fragment` of a body. -/
def leaf (f : Fragment TokenKind) : Token where
  kind := f.kind
  text := f.text
  start := f.start
  stop := f.stop
  children := []

/-- A token at a position with a body: `head` is what lies between its first character and the
opening parenthesis, `inside` what follows that parenthesis. -/
def withBody (body : Body) (position : Nat) (kind : TokenKind) (head inside : Text) : Lexeme :=
  let (fragments, length) :=
    sparse body.token? (· == ')') (position + head.length + 2) inside
  { kind
    tail := head ++ CodePoint.char '(' :: inside.take (length + 1)
    children := fragments.map leaf }

/-- A token that starts with a colon. The argument of the `selectorPseudoClasses` is a selector,
that of all others is plain text. -/
def pseudo (position : Nat) (cs : Text) : Lexeme :=
  let head := pseudoName cs
  let name := head.drop (secondColon cs).length
  match cs.drop head.length with
  | '(' :: inside =>
    if Vocabulary.selectorPseudoClasses.contains name then
      withBody .selector position .pseudoClass head inside
    else { kind := .pseudoClass, tail := pseudoTail cs }
  | _ => { kind := .pseudoClass, tail := head }

/-- The states that a keyword behind `@` stands for and that may carry a body. -/
def atState? (keyword : Text) : Option (TokenKind × Body) :=
  if keyword == "media".toText then some (.mediaState, .query)
  else if keyword == "supports".toText then some (.supportsState, .query)
  else if keyword == "root".toText then some (.rootState, .condition)
  else if keyword == "own".toText then some (.ownState, .condition)
  else none

/-- A token that starts with `@`. A configured alias is one whatever its name; of the other names
the keywords have their own meaning, and the rest are aliases to be judged later. -/
def advanced (aliases : List Text) (position : Nat) (cs : Text) : Lexeme :=
  match cs with
  | '(' :: inside => withBody .condition position .containerState [] inside
  | _ =>
    let keyword := dashedName cs
    if aliases.contains ('@' :: keyword) then { kind := .stateAlias, tail := keyword }
    else match atState? keyword, cs.drop keyword.length with
      | some (kind, body), '(' :: inside => withBody body position kind keyword inside
      | some (kind, _), _ => { kind, tail := keyword }
      | none, _ =>
        if keyword == "starting".toText then { kind := .startingState, tail := keyword }
        else if keyword == "keyframes".toText || keyword == "properties".toText then
          { kind := .atRule, tail := keyword }
        else { kind := .stateAlias, tail := keyword }

/-- The first token of the text `c :: cs` at a position. -/
def read (aliases : List Text) (position : Nat) (c : CodePoint) (cs : Text) : Lexeme :=
  if isBlank c then { kind := .whitespace, tail := cs.takeWhile isBlank }
  else if isLogicalOperator c then { kind := .stateOperator, tail := [] }
  else if c == '(' || c == ')' then { kind := .punctuation, tail := [] }
  else if c == ':' then pseudo position cs
  else if c == '.' then { kind := .classSelector, tail := dashedName cs }
  else if c == '[' then { kind := .attrSelector, tail := attributeTail cs }
  else if c == '@' then advanced aliases position cs
  else if isNameStart c then
    let (kind, tail) := modifier true cs
    { kind, tail }
  else { kind := .unknown, tail := [] }

end Lexeme

/-! ## §4 The token stream -/

/-- The tokens of a text that stands at a given `position`. Each `Lexeme` takes one character at
least, which is why this ends. -/
def lexFrom (aliases : List Text) (position : Nat) : Text → List Token
  | [] => []
  | c :: cs =>
    let lexeme := Lexeme.read aliases position c cs
    let stop := position + 1 + lexeme.tail.length
    { kind := lexeme.kind, text := c :: lexeme.tail, start := position, stop,
      children := lexeme.children }
      :: lexFrom aliases stop (cs.drop lexeme.tail.length)
termination_by cs => cs.length
decreasing_by simp only [List.length_cons, List.length_drop]; omega

/-- The tokens of a state key. A blank key is one token, the `.defaultState`. -/
def lex (aliases : List Text) (key : Text) : List Token :=
  if key.all isBlank then
    [{ kind := .defaultState, text := key, start := 0, stop := key.length, children := [] }]
  else lexFrom aliases 0 key

end StyleCheck.StateKey
