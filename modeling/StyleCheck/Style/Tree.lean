import StyleCheck.StateKey.Shape
import StyleCheck.Text.Span

/-!
# Style objects

Whoever reads the host language finds the style objects of a file and hands them over in this
shape. Offsets are those of the host file; for a quoted key or value they are those of the
content, without the quotes. They come from outside, so nothing is assumed of them.

## Main definitions

- `StyleValue`, `StyleObject`, `Forest`: the trees.
- `KeyRole`: what a key of a style object stands for.
-/

namespace StyleCheck

/-! ## §1 Trees -/

/-- A key of a style object, with the offsets of its content. They come from outside and need not
make a `Span`. -/
structure StyleKey where
  name : Text
  start : Int
  stop : Int
deriving DecidableEq, Repr

/-- The value under a key. -/
inductive StyleValue
  /-- A value that is neither a text nor an object; it is not looked into. -/
  | unread
  /-- A text with the offsets of its content. -/
  | text (content : Text) (start stop : Int)
  /-- An object with its entries in order and the offsets of its braces. -/
  | object (entries : List (StyleKey × StyleValue)) (start stop : Int)
deriving Repr

/-- The entries of a style object. -/
abbrev StyleEntries := List (StyleKey × StyleValue)

/-- A style object that stands on its own in a file. -/
structure StyleObject where
  entries : StyleEntries
  start : Int
  stop : Int
deriving Repr

/-- The style objects of a file. -/
abbrev Forest := List StyleObject

/-- The value under the first key of a `name`. -/
def StyleObject.get? (object : StyleObject) (name : Text) : Option StyleValue :=
  (object.entries.find? fun e => e.1.name = name).map (·.2)

/-- The offsets of a key as a `Span`, if they make one. -/
def StyleKey.span (key : StyleKey) : Except Fault Span := Span.ofBounds key.start key.stop

/-! ## §2 The roles of keys -/

/-- What a key of a style object stands for. -/
inductive KeyRole
  /-- A sub-element: its object is a style object again. -/
  | subElement
  /-- A nested selector that starts with `&`; its object is a style object again. -/
  | nested
  /-- `@keyframes`, whose value is not about states. -/
  | keyframes
  /-- `@properties`, whose object declares tokens. -/
  | properties
  /-- `@starting`, which is a state and stands here by mistake. -/
  | starting
  /-- Any other key that starts with `@`: an alias with its meaning, or a state with an object. -/
  | state
  /-- The lone `$`, whose value is a selector affix. -/
  | affix
  /-- A token, which is defined here: `#name` or `$name`. -/
  | token
  /-- A style property. -/
  | property
deriving DecidableEq, Repr

/-- Whether a name is that of a token: it starts with `#` or `$`. -/
def isTokenName (name : Text) : Bool := name.head? == some '#' || name.head? == some '$'

/-- The role of a key, which its `name` decides. What starts with a capital letter is a sub-element
before all else. -/
def KeyRole.ofName (name : Text) : KeyRole :=
  if StateKey.isSubElement name then .subElement
  else if name.head? == some '&' then .nested
  else if name.head? == some '@' then
    if name == "@keyframes".toText then .keyframes
    else if name == "@properties".toText then .properties
    else if name == "@starting".toText then .starting
    else .state
  else if name == "$".toText then .affix
  else if isTokenName name then .token
  else .property

end StyleCheck
