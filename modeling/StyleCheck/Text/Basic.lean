import StyleCheck.Text.CodePoint

/-!
# Text

Source text, names and messages are sequences of code points. Every offset and length in this
library counts code points, so a list of them is the natural carrier: a slice is a `drop` and a
`take`, and a scanner is a recursion on the list.

## Main definitions

- `Text`, `String.toText`: sequences of code points.
- `Text.compare`, `Text.sort`: order by code point.
- `Text.slice`: the part of a text between two bounds, clipped to it.
- `Text.splitOn`, `Text.join`: texts in pieces.
- `Text.toString`: what is printed for a text.
- `Text.decimal`, `Text.padStart`, `Text.padEnd`: numbers and columns in listings.
-/

namespace StyleCheck

/-- A sequence of code points. Offsets are counted in them, never in bytes. -/
abbrev Text := List CodePoint

end StyleCheck

/-- The text of a `String`, in which every code point is a character. -/
def String.toText (s : String) : StyleCheck.Text := s.toList.map .char

namespace StyleCheck

namespace Text

/-! ## §1 Order -/

/-- Order by code point; a text comes before its own extensions. It is the order of
`CodePoint.toNat`, character by character. -/
def compare : Text → Text → Ordering
  | [], [] => .eq
  | [], _ :: _ => .lt
  | _ :: _, [] => .gt
  | a :: as, b :: bs =>
    if a.toNat < b.toNat then .lt else if b.toNat < a.toNat then .gt else compare as bs

/-- Whether a text does not come after another in `compare`. -/
def le (a b : Text) : Bool := (compare a b).isLE

/-- The texts in order of code points, by `le`. -/
def sort (texts : List Text) : List Text := texts.mergeSort le

/-! ## §2 Parts -/

/-- The characters from the offset `start` up to `stop`; bounds past the end are clipped to it. -/
def slice (source : Text) (start stop : Nat) : Text := (source.take stop).drop start

/-- The text up to the first occurrence of `stop`, or all of it. -/
def upTo (stop : CodePoint) (cs : Text) : Text := cs.takeWhile (· != stop)

/-- The text without one final line break, if it ends in one. -/
def dropFinalNewline (cs : Text) : Text :=
  if cs.getLast? == some '\n' then cs.dropLast else cs

/-- The pieces of a text between the occurrences of the `separator`, one more than there are of it.
-/
def splitOn (separator : CodePoint) : Text → List Text
  | [] => [[]]
  | c :: cs =>
    if c == separator then [] :: splitOn separator cs
    else match splitOn separator cs with
      | piece :: pieces => (c :: piece) :: pieces
      | [] => [[c]]

/-- The texts one after the other, with the `separator` between neighbours. -/
def join (separator : Text) : List Text → Text
  | [] => []
  | [t] => t
  | t :: ts => t ++ separator ++ join separator ts

/-- The string that is printed for a text. A surrogate cannot be printed; `CodePoint.toChar`
replaces it. -/
protected def toString (cs : Text) : String := String.ofList (cs.map CodePoint.toChar)

/-! ## §3 Numbers and columns -/

/-- The decimal digits of an integer, with a minus sign if it is negative. -/
def decimal (n : Int) : Text := (toString n).toText

/-- A text brought to the `width` by characters in front of it. A longer one stays as it is. -/
def padStart (width : Nat) (fill : CodePoint) (cs : Text) : Text :=
  List.replicate (width - cs.length) fill ++ cs

/-- A text brought to the `width` by spaces behind it. A longer one stays as it is. -/
def padEnd (width : Nat) (cs : Text) : Text :=
  cs ++ List.replicate (width - cs.length) (.char ' ')

end Text

end StyleCheck
