import StyleCheck.StateKey.Lexer

/-!
# Selector affixes

The value of the `$` property says where in a selector the key of a sub-element is inserted:
`>Body>Row>`, `>@:hover`, `::before, ::after`. White space and characters of no meaning are passed
over.

## Main definitions

- `AffixKind`, `AffixToken`: the parts of an affix.
- `Affix.lex`: the parts of a text.
- `Affix.wholeToken`: the text as one token.
-/

namespace StyleCheck

/-- The classes of affix parts. -/
inductive AffixKind
  /-- `>`, `+` or `~`. -/
  | combinator
  /-- A capitalized name: `Body`. -/
  | subElement
  /-- Any other name: `ul`. -/
  | htmlTag
  /-- `::before`. -/
  | pseudoElement
  /-- `:hover`, `:nth-child(2)`. -/
  | pseudoClass
  /-- `.active`. -/
  | classSelector
  /-- `[disabled]`. -/
  | attrSelector
  /-- `@`, where the key is inserted. -/
  | placeholder
  /-- A comma. -/
  | punctuation
deriving DecidableEq, Repr

namespace AffixKind

/-- The label of a kind in listings. -/
def label : AffixKind → String
  | combinator => "COMBINATOR"
  | subElement => "SUB_ELEMENT"
  | htmlTag => "HTML_TAG"
  | pseudoElement => "PSEUDO_ELEMENT"
  | pseudoClass => "PSEUDO_CLASS"
  | classSelector => "CLASS_SELECTOR"
  | attrSelector => "ATTR_SELECTOR"
  | placeholder => "PLACEHOLDER"
  | punctuation => "PUNCTUATION"

/-- The kind in words. -/
def words : AffixKind → String
  | combinator => "combinator"
  | subElement => "sub-element"
  | htmlTag => "html-tag"
  | pseudoElement => "pseudo-element"
  | pseudoClass => "pseudo-class"
  | classSelector => "class-selector"
  | attrSelector => "attr-selector"
  | placeholder => "placeholder"
  | punctuation => "punctuation"

end AffixKind

/-- A part of an affix. -/
abbrev AffixToken := Text.Fragment AffixKind

namespace Affix

open Text

/-- The part of an affix, if any, that starts at a character. Where it gives `none`, the character
is skipped. -/
def token? (c : CodePoint) (cs : Text) : Option (AffixKind × Text) :=
  if StateKey.isCombinator c then some (.combinator, [])
  else if c == ',' then some (.punctuation, [])
  else if c == '@' then some (.placeholder, [])
  else if c == ':' then
    some (if (StateKey.secondColon cs).isEmpty then .pseudoClass else .pseudoElement,
      StateKey.pseudoTail cs)
  else if c == '.' then some (.classSelector, dashedName cs)
  else if c == '[' then some (.attrSelector, StateKey.attributeTail cs)
  else if isNameStart c then
    some (if StateKey.isSubElement [c] then .subElement else .htmlTag, dashedName cs)
  else none

/-- The parts of an affix, in order. `Text.sparse` skips what starts none. -/
def lex (text : Text) : List AffixToken := (sparse token? (fun _ => false) 0 text).1

/-- The whole affix as one token, of the kind `.selectorAffix`, with nothing below it. -/
def wholeToken (text : Text) : Token where
  kind := .selectorAffix
  text := text
  start := 0
  stop := text.length
  children := []

end Affix

end StyleCheck
