import StyleCheck.Style.Tree

/-!
# Rendering style objects

Writes a nested mapping as an object literal and records where each key and value stands in it, so
that styles can be checked without reading a host language first.

## Main definitions

- `Literal`: what an entry of a mapping may hold.
- `StyleSource.render`: the literal of a mapping, with the style object that describes it.
-/

namespace StyleCheck

/-- What an entry of a mapping may hold. -/
inductive Literal
  | null
  | text (content : Text)
  | mapping (entries : List (Text × Literal))
deriving Repr

/-- A rendered object literal and the style object that describes it; the offsets in `root` are
offsets in `text`. -/
structure StyleSource where
  text : Text
  root : StyleObject

namespace StyleSource

/-- The quote around a text: a single one, unless the `content` holds one itself. -/
def quoteFor (content : Text) : CodePoint := if content.contains '\'' then '"' else '\''

/-- A text between quotes, its `quoteFor` in front and behind. -/
def quote (content : Text) : Text := quoteFor content :: content ++ [quoteFor content]

/-- The entries of a mapping between braces. -/
def braced (inside : Text) : Text := "\x7b".toText ++ inside ++ "\x7d".toText

mutual

/-- The written form of a value at a `position`, with its description. The offsets of a text leave
the quotes out, and those of an object take the braces in. -/
def renderValue (position : Nat) : Literal → Text × StyleValue
  | .null => ("null".toText, .unread)
  | .text content =>
    (quote content, .text content (position + 1) (position + 1 + content.length))
  | .mapping entries =>
    let (inside, described) := renderEntries (position + 1) [] entries
    (braced inside, .object described position (position + inside.length + 2))

/-- The written form of entries at a `position`, each after a `separator`. Only the first entry has
an empty one. -/
def renderEntries (position : Nat) (separator : Text) : List (Text × Literal) → Text × StyleEntries
  | [] => ([], [])
  | (name, value) :: entries =>
    let start := position + separator.length + 1
    let head := separator ++ quote name ++ ": ".toText
    let (valueText, described) := renderValue (position + head.length) value
    let (restText, rest) :=
      renderEntries (position + head.length + valueText.length) ", ".toText entries
    (head ++ valueText ++ restText, (⟨name, start, start + name.length⟩, described) :: rest)

end

/-- The object literal of a mapping, with offsets for every key and value. It starts at the offset
zero of its own `text`. -/
def render (mapping : List (Text × Literal)) : StyleSource :=
  let (inside, described) := renderEntries 1 [] mapping
  let text := braced inside
  { text, root := ⟨described, 0, text.length⟩ }

/-- The forest of a rendered source, which holds its one object. -/
def forest (source : StyleSource) : Forest := [source.root]

end StyleSource

end StyleCheck
