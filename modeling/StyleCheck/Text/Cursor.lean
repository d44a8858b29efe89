import StyleCheck.Text.Scan
import StyleCheck.Token

/-!
# Cursors

A position in a source text, with the scanners as moves. Past the end of the source there is no
character to see; `endMark` stands for one, so that a caller can compare without a bounds check.

A position is an integer. One before the start of the source counts back from its end, for single
characters as for slices: from such a position the cursor sees the last characters of the source
and then the source from its start. Where not even that gives a character, reading is a fault.
-/

namespace StyleCheck

/-- A position in a `source` text. It may lie outside, before the start or past the end. -/
structure Cursor where
  source : Text
  position : Int
deriving DecidableEq, Repr

namespace Cursor

/-! ## §1 Positions -/

/-- The character seen past the end of the `source`. -/
def endMark : CodePoint := '\x00'

/-- A cursor at the start of a source. -/
def start (source : Text) : Cursor := ⟨source, 0⟩

/-- Whether nothing is left to read. -/
def isAtEnd (c : Cursor) : Bool := c.source.length ≤ c.position

/-- The characters that lie ahead of the cursor. From a position before the start they are the last
ones of the `source`, and then all of it. -/
def ahead (c : Cursor) : Except Fault Text :=
  if 0 ≤ c.position then .ok (c.source.drop c.position.toNat)
  else if -c.position ≤ c.source.length then
    .ok (c.source.drop (c.source.length - (-c.position).toNat) ++ c.source)
  else .error (if c.position < leastIndex then .belowIndexRange else .outsideSource)

/-- The cursor moved on by `steps`, though not beyond the end of the source. -/
def advance (c : Cursor) (steps : Int) : Cursor :=
  { c with position := min (c.position + steps) c.source.length }

/-- The character so many `steps` ahead, or the `endMark`. -/
def peek (c : Cursor) (steps : Int) : Except Fault CodePoint :=
  (ahead { c with position := c.position + steps }).map fun cs => cs.headD endMark

/-- The character at the cursor, or the `endMark`. -/
def current (c : Cursor) : Except Fault CodePoint := c.peek 0

/-- A slice bound `i` brought into the source: a negative one counts from the end. -/
def bound (c : Cursor) (i : Int) : Nat :=
  if 0 ≤ i then min i.toNat c.source.length else (c.source.length + i).toNat

/-- The part of the source from `start` to the cursor. Where the cursor stands before that, it is
empty. -/
def sliceFrom (c : Cursor) (start : Int) : Text :=
  Text.slice c.source (c.bound start) (c.bound c.position)

/-- The token from `start` to the cursor, without children. -/
def token (c : Cursor) (kind : TokenKind) (start : Int) : Token where
  kind := kind
  text := c.sliceFrom start
  start := start
  stop := c.position
  children := []

/-! ## §2 Reading -/

/-- Moves past what a `scanner` takes of the characters ahead; the answer is the part of the source
that was passed. -/
def take (c : Cursor) (scanner : Text → Text) : Except Fault (Text × Cursor) :=
  c.ahead.map fun cs =>
    let next := c.advance (scanner cs).length
    (next.sliceFrom c.position, next)

/-- Passes white space, all that is `isBlank`. -/
def skipBlanks (c : Cursor) : Except Fault Cursor :=
  (c.take (·.takeWhile Text.isBlank)).map (·.2)

/-- Reads digits. -/
def readDigits (c : Cursor) : Except Fault (Text × Cursor) := c.take Text.digits

/-- Reads letters, digits and underscores. -/
def readName (c : Cursor) : Except Fault (Text × Cursor) := c.take Text.name

/-- Reads letters, digits, underscores and hyphens. -/
def readDashedName (c : Cursor) : Except Fault (Text × Cursor) := c.take Text.dashedName

/-- Reads a bracketed group, as `Text.groupBetween` has it. -/
def readGroup (c : Cursor) (opener closer : Text) : Except Fault (Text × Cursor) :=
  c.take (Text.groupBetween opener closer)

/-- Reads a quoted string, as `Text.quotedFrom` has it; the character at the cursor is the quote. -/
def readQuoted (c : Cursor) : Except Fault (Text × Cursor) := c.take Text.quotedFrom

end Cursor

end StyleCheck
