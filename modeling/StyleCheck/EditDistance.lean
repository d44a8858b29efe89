import StyleCheck.Text.Basic

/-!
# Edit distance

The least number of single-character insertions, deletions and replacements between two texts,
computed row by row: the row of a prefix of the one text holds its distances to all prefixes of
the other.

## Main definitions

- `editDistance`: the distance.
-/

namespace StyleCheck

/-- The part of a row behind an entry `left`, for one more character `c` of the first text. `above`
is the part of the previous row behind `diagonal`, which stands above `left`. -/
def editRowTail (c : CodePoint) (left diagonal : Nat) : Text → List Nat → List Nat
  | d :: ds, up :: above =>
    let entry := min (min (up + 1) (left + 1)) (diagonal + if c == d then 0 else 1)
    entry :: editRowTail c entry up ds above
  | _, _ => []

/-- The row of a prefix, made from that of the prefix shorter by `c`. -/
def nextEditRow (target : Text) (row : List Nat) (c : CodePoint) : List Nat :=
  match row with
  | [] => []
  | diagonal :: above => (diagonal + 1) :: editRowTail c (diagonal + 1) diagonal target above

/-- The last row: the distances of the whole first text to the prefixes of the target, by
`nextEditRow` for each of its characters. -/
def editRow (source target : Text) : List Nat :=
  source.foldl (nextEditRow target) (List.range (target.length + 1))

/-- The edit distance of two texts. The rows run along the shorter one, which saves room and, by
`recursiveDistance_comm`, changes nothing. -/
def editDistance (a b : Text) : Nat :=
  if a.length < b.length then (editRow b a).getLastD 0 else (editRow a b).getLastD 0

end StyleCheck
