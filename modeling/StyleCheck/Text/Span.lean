import StyleCheck.Fault

/-!
# Spans

Half-open ranges of offsets. A `Span` carries the proof that it does not end before it starts;
bounds from outside are integers and pass through `Span.ofBounds`, which refuses the others.
-/

namespace StyleCheck

/-- The offsets from `start` up to, and not including, `stop`. -/
structure Span where
  start : Nat
  stop : Nat
  start_le_stop : start ≤ stop
deriving DecidableEq, Repr

namespace Span

/-! ## §1 Construction -/

/-- The span between two bounds. Bounds before the text are reported before inverted ones, as
`Fault.negativePosition`. -/
def ofBounds (start stop : Int) : Except Fault Span :=
  if start < 0 ∨ stop < 0 then .error .negativePosition
  else if h : start.toNat ≤ stop.toNat then .ok ⟨start.toNat, stop.toNat, h⟩
  else .error .invertedRange

/-- The span of a given `length` at an `offset`. -/
def at? (offset length : Int) : Except Fault Span := ofBounds offset (offset + length)

/-- The empty span at an offset. -/
def empty (offset : Int) : Except Fault Span := ofBounds offset offset

/-- The span moved by `delta` into another coordinate space. It may come to lie before the text, and
then this fails. -/
def shift (s : Span) (delta : Int) : Except Fault Span :=
  ofBounds (s.start + delta) (s.stop + delta)

/-- The least span that covers both `s` and `t`, with whatever lies between them. -/
def cover (s t : Span) : Span where
  start := min s.start t.start
  stop := max s.stop t.stop
  start_le_stop :=
    Nat.le_trans (Nat.min_le_left ..) (Nat.le_trans s.start_le_stop (Nat.le_max_left ..))

/-! ## §2 Queries -/

/-- The number of offsets in the span. -/
def length (s : Span) : Nat := s.stop - s.start

/-- Whether the span holds no offset. -/
def isEmpty (s : Span) : Bool := s.start == s.stop

/-- Whether an `offset` lies in the span; `stop` does not. -/
def contains (s : Span) (offset : Int) : Bool := s.start ≤ offset && offset < s.stop

/-- Whether the span `t` lies within `s`. -/
def covers (s t : Span) : Bool := s.start ≤ t.start && t.stop ≤ s.stop

/-- Order by `start`, then by `stop`. -/
def compare (s t : Span) : Ordering :=
  (Ord.compare s.start t.start).then (Ord.compare s.stop t.stop)

/-- The part of a `source` that the span covers, clipped to the source. -/
def slice (s : Span) (source : Text) : Text := Text.slice source s.start s.stop

/-- The bounds as a pair in brackets. -/
def bounds (s : Span) : Text :=
  "(".toText ++ Text.decimal s.start ++ ", ".toText ++ Text.decimal s.stop ++ ")".toText

/-- The span with its name, for debugging. -/
def describe (s : Span) : Text := "TextRange".toText ++ s.bounds

end Span

end StyleCheck
