import Mathlib.Tactic.Common
import StyleCheck.Text.Span

/-!
# Bounds of spans

Bounds from outside make a span just where they are those of a range. So whether a check comes to
a result can be told from the offsets that it is given.

## Main definitions

- `InOrder`: two offsets are those of a range.

## Main statements

- `Span.ofBounds_eq_ok_iff`, `Span.exists_ofBounds_iff`: the span of two bounds.
- `Span.shift_eq_ok_iff`: the span moved into another space.
-/

namespace StyleCheck

/-- Two offsets are those of a range: neither is negative, and they are in order. -/
def InOrder (start stop : Int) : Prop := 0 ≤ start ∧ start ≤ stop

instance (start stop : Int) : Decidable (InOrder start stop) :=
  inferInstanceAs (Decidable (0 ≤ start ∧ start ≤ stop))

namespace Span

variable {start stop : Int} {span : Span}

/-- Two bounds make a span just where they are the bounds of it.

Bounds that are negative or inverted are refused by `Span.ofBounds`, and no span has such. -/
theorem ofBounds_eq_ok_iff :
    ofBounds start stop = .ok span ↔ (span.start : Int) = start ∧ (span.stop : Int) = stop := by
  obtain ⟨low, high, ordered⟩ := span
  unfold ofBounds
  split
  · next negative =>
    -- No span has bounds like these.
    constructor
    · intro refused
      cases refused
    · rintro ⟨h, h'⟩
      dsimp only at h h'
      omega
  · split
    · next inOrder =>
      rw [Except.ok.injEq, Span.mk.injEq]
      dsimp only
      omega
    · -- A span is in order, so its bounds are not inverted.
      next inverted =>
      constructor
      · intro refused
        cases refused
      · rintro ⟨h, h'⟩
        dsimp only at h h'
        omega

/-- Some span has two bounds just where these are `InOrder`. -/
theorem exists_ofBounds_iff : (∃ span, ofBounds start stop = .ok span) ↔ InOrder start stop := by
  simp only [ofBounds_eq_ok_iff, InOrder]
  constructor
  · rintro ⟨⟨low, high, ordered⟩, rfl, rfl⟩
    dsimp only
    omega
  · rintro ⟨positive, ordered⟩
    exact ⟨⟨start.toNat, stop.toNat, by omega⟩, Int.toNat_of_nonneg positive,
      Int.toNat_of_nonneg (by omega)⟩

theorem shift_eq_ok_iff {delta : Int} {moved : Span} :
    span.shift delta = .ok moved ↔
      (moved.start : Int) = span.start + delta ∧ (moved.stop : Int) = span.stop + delta :=
  ofBounds_eq_ok_iff

end Span

end StyleCheck
