import StyleCheck.EditDistance
import StyleCheck.Text.Lowercase

/-!
# Suggestions

The known name that comes closest to an unknown one, letter case apart. A name whose length is too
far off is passed over; of equally close names the first is taken.

## Main definitions

- `closest?`: the closest candidate within a distance.
- `suggest?`: the closest candidate within the usual distance.
-/

namespace StyleCheck

/-- The distance of two names, letter case apart: `editDistance` of their lower-case forms. -/
def nameDistance (a b : Text) : Nat := editDistance a.lower b.lower

/-- Whether the lengths of two names differ by at most `limit`. -/
def lengthsWithin (limit : Int) (a b : Text) : Bool :=
  ((a.length : Int) - b.length).natAbs ≤ limit

/-- The better of the best candidate so far, if there is one, and the next candidate. The next one
is passed over if `lengthsWithin` does not hold of it. -/
def closer (unknown : Text) (limit : Int) (best : Option (Text × Nat)) (candidate : Text) :
    Option (Text × Nat) :=
  if lengthsWithin limit candidate unknown then
    let distance := nameDistance unknown candidate
    match best with
    | some (_, d) => if distance < d then some (candidate, distance) else best
    | none => if distance ≤ limit then some (candidate, distance) else none
  else best

/-- The first of the candidates that are closest to an unknown name, within a distance of `limit`.
-/
def closest? (unknown : Text) (candidates : List Text) (limit : Int) : Option Text :=
  (candidates.foldl (closer unknown limit) none).map (·.1)

/-- How far a suggested name may be from the one that was written. -/
def suggestionLimit : Int := 3

/-- The name that was probably meant: the closest within `suggestionLimit`. -/
def suggest? (unknown : Text) (candidates : List Text) : Option Text :=
  closest? unknown candidates suggestionLimit

end StyleCheck
