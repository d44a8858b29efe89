/-!
# Lists without repetitions

`firstOccurrences` keeps each element of a list where it first stands and drops it later on. It
unites name lists and removes duplicates from reports.
-/

namespace StyleCheck

/-- The elements of a list, each once, in the order of their first occurrences. -/
def firstOccurrences {α : Type} [DecidableEq α] : List α → List α
  | [] => []
  | a :: as => a :: (firstOccurrences as).filter (· ≠ a)

end StyleCheck
