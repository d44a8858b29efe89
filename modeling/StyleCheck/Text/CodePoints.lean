import StyleCheck.Text.Basic

/-!
# Sets of code points

Character classes that reach beyond ASCII are tables of closed ranges of code points.
-/

namespace StyleCheck.Text

/-- A set of code points, as closed ranges. -/
abbrev CodePoints := List (Nat × Nat)

/-- Whether a code point lies in one of the `ranges`, ends included. -/
def CodePoints.has (ranges : CodePoints) (c : CodePoint) : Bool :=
  ranges.any fun r => r.1 ≤ c.toNat && c.toNat ≤ r.2

end StyleCheck.Text
